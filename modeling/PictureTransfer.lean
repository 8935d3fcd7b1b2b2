import PictureTransfer.Main
import PictureTransfer.Wire.Field
import PictureTransfer.Proofs.Wire.Spelling
import PictureTransfer.Proofs.Packet.Framing
import PictureTransfer.Proofs.Packet.Payload
import PictureTransfer.Proofs.Packet.Fault
import PictureTransfer.Proofs.Transaction.Reassembly
import PictureTransfer.Proofs.Session.Exchange
import PictureTransfer.Proofs.Link.Use
import PictureTransfer.Proofs.Session.Transact
import PictureTransfer.Proofs.Session.Closing
import PictureTransfer.Proofs.Session.Classification
import PictureTransfer.Proofs.Dataset.Fault
import PictureTransfer.Proofs.Session.OutOfStep
import PictureTransfer.Proofs.Session.Connecting
import PictureTransfer.Proofs.Session.NoCrossTalk
import PictureTransfer.Proofs.Wire.Lettering
import PictureTransfer.Proofs.Packet.Greeting
import PictureTransfer.Proofs.Link.Writing
import PictureTransfer.Proofs.Packet.Frame
import PictureTransfer.Proofs.Session.Welcome
import PictureTransfer.Proofs.Event.Hearing
import PictureTransfer.Proofs.Event.Reading
import PictureTransfer.Proofs.Session.Conduct
import PictureTransfer.Proofs.Event.Isolation
import PictureTransfer.Proofs.Session.EventSide
import PictureTransfer.Proofs.Session.EventStream
import PictureTransfer.Proofs.Session.LastReport
import PictureTransfer.Proofs.Session.CommandSide
import PictureTransfer.Proofs.Session.Request
import PictureTransfer.Proofs.Session.Finality
import PictureTransfer.Proofs.Session.Numbering
import PictureTransfer.Proofs.Session.Stamping
import PictureTransfer.Proofs.Packet.Catalogue
import PictureTransfer.Proofs.Packet.Fatality
import PictureTransfer.Proofs.Packet.Succession
import PictureTransfer.Proofs.Packet.Shape
import PictureTransfer.Proofs.Transaction.Order
import PictureTransfer.Proofs.Transaction.Bookkeeping
import PictureTransfer.Proofs.Wire.Counting
import PictureTransfer.Proofs.Wire.Buffer
import PictureTransfer.Proofs.Wire.Streaming
import PictureTransfer.Proofs.Dataset.RoundTrip
import PictureTransfer.Proofs.Session.Reply
import PictureTransfer.Proofs.Session.CutShort
import PictureTransfer.Proofs.Session.FatalError
import PictureTransfer.Proofs.Session.KeptNumber
import PictureTransfer.Proofs.Wire.Filling
import PictureTransfer.Proofs.Wire.Extent
import PictureTransfer.Proofs.Wire.Steadiness
import PictureTransfer.Proofs.Dataset.Parts
import PictureTransfer.Proofs.Dataset.Truncation
import PictureTransfer.Proofs.Session.Introduction
import PictureTransfer.Proofs.Wire.Complement
import PictureTransfer.Proofs.Wire.Cursor
import PictureTransfer.Proofs.Event.Routing
import PictureTransfer.Proofs.Guid.Grammar
import PictureTransfer.Proofs.Guid.Respelling
import PictureTransfer.Proofs.Config.Saving
import PictureTransfer.Proofs.Command.Capture
import PictureTransfer.Link.Handle
import PictureTransfer.Proofs.Event.Membership
import PictureTransfer.Proofs.Link.Carrying
import PictureTransfer.Proofs.Config.Addressing
