import PictureTransfer.Proofs.Packet.Frame

/-!
# Which errors end a stream of packets

The header at the front of a source announces a length and a kind.  Where a frame of that
length is there, reading costs just the frame: it is a packet if the kind has a number from
1 to 14, and otherwise an error behind which the next packet can be read.  Where no such frame
is there, because the source ends or fails in front of its end or because no packet is so
short, the error is fatal.

* `Packet.read_whole_named`, `Packet.read_whole_unnamed`, `Packet.read_not_whole` — the three
  ways in which reading a packet ends;
* `Packet.fatal_iff_not_whole` — which of them it is, and what it costs, for every source.
-/

namespace PictureTransfer

/-- The kinds have the numbers from 1 to 14. -/
theorem PacketKind.ofCode?_isSome_iff {code : Nat} :
    (ofCode? code).isSome ↔ 1 ≤ code ∧ code ≤ 14 := by
  constructor
  · intro h
    obtain ⟨kind, hkind⟩ := Option.isSome_iff_exists.mp h
    rw [← ofCode?_eq_some_iff.mp hkind]
    cases kind <;> decide
  · intro h
    have hall : ∀ code : Fin 15, 1 ≤ code.val → (ofCode? code.val).isSome := by decide
    exact hall ⟨code, Nat.lt_succ_of_le h.2⟩ h.1

namespace Packet

/-- True where a header stands at the front and all that it announces. -/
def Whole (queued : Bytes) : Prop := 8 ≤ announced queued ∧ announced queued ≤ queued.length

/-- True where the header at the front has the number of a kind. -/
def Named (queued : Bytes) : Prop := 1 ≤ announcedKind queued ∧ announcedKind queued ≤ 14

instance (queued : Bytes) : Decidable (Whole queued) := inferInstanceAs (Decidable (_ ∧ _))

instance (queued : Bytes) : Decidable (Named queued) := inferInstanceAs (Decidable (_ ∧ _))

variable {s : Source}

/-- A whole frame is read in full. -/
theorem read_whole (h : Whole s.queued) :
    ∃ frame : Frame, frame.bytes = s.queued.take (announced s.queued) ∧
      announcedKind frame.bytes = announcedKind s.queued ∧
      read s =
        match frame.packet with
        | .ok p => .ok p (past (announced s.queued) s)
        | .error v => .error (.violation v) (past (announced s.queued) s) := by
  obtain ⟨frame, hbytes, hfirst⟩ := Frame.first?_of_announced h.1 h.2
  refine ⟨frame, hbytes, ?_, read_frame (Frame.first?_eq_some_iff.mp hfirst)⟩
  rw [hbytes, announcedKind, announcedKind, List.take_take, Nat.min_eq_left h.1]

/-- A whole frame of a known kind is a packet. -/
theorem read_whole_named (h : Whole s.queued) (hnamed : Named s.queued) :
    ∃ p, read s = .ok p (past (announced s.queued) s) ∧
      p.toBytes = s.queued.take (announced s.queued) := by
  obtain ⟨frame, hbytes, hkind, hread⟩ := read_whole h
  obtain ⟨kind, hcode⟩ := Option.isSome_iff_exists.mp (PacketKind.ofCode?_isSome_iff.mpr hnamed)
  have hpacket : frame.packet = .ok ⟨kind, frame.bytes.drop 8⟩ := by
    rw [Frame.packet, hkind, hcode]
  rw [hpacket] at hread
  exact ⟨_, hread, by rw [← Frame.packet_ok_iff.mp hpacket, hbytes]⟩

/-- A whole frame of an unknown kind is passed over. -/
theorem read_whole_unnamed (h : Whole s.queued) (hnamed : ¬ Named s.queued) :
    ∃ e, read s = .error e (past (announced s.queued) s) ∧ e.isFatal = false := by
  obtain ⟨frame, hbytes, hkind, hread⟩ := read_whole h
  have hcode : PacketKind.ofCode? (announcedKind s.queued) = none := by
    rw [← Option.not_isSome_iff_eq_none, PacketKind.ofCode?_isSome_iff]
    exact hnamed
  have hpacket : frame.packet = .error (.unknownKind (announcedKind s.queued)) := by
    rw [Frame.packet, hkind, hcode]
  rw [hpacket] at hread
  exact ⟨_, hread, rfl⟩

/-- Where no frame is whole there is nothing more to read. -/
theorem read_not_whole (h : ¬ Whole s.queued) :
    ∃ e, read s = .error e (if Frame.Broken s.queued then past 8 s else exhausted s) ∧
      e.isFatal = true := by
  by_cases hbroken : Frame.Broken s.queued
  · exact ⟨_, by rw [if_pos hbroken]; exact read_of_broken hbroken, rfl⟩
  · obtain ⟨e, hread, hfatal, _⟩ := read_of_cut (Frame.first?_eq_none_iff.mpr h) hbroken
    exact ⟨e, by rw [if_neg hbroken]; exact hread, hfatal⟩

/-- **An error is fatal just where no frame is whole.**  Whatever the source holds, how much
of it each read hands over, and however it fails: a packet is read just when a whole frame of
a known kind is there, which are then its bytes; an error that is not fatal arises just when a
whole frame of another kind is; both cost the frame.  In every other case there is a fatal
error, which costs a header if only its length is wrong, and everything there is if not. -/
theorem fatal_iff_not_whole (s : Source) :
    ((∃ p s', read s = .ok p s') ↔ Whole s.queued ∧ Named s.queued) ∧
      (∀ p s', read s = .ok p s' →
        s' = past (announced s.queued) s ∧ p.toBytes = s.queued.take (announced s.queued)) ∧
      ((∃ e s', read s = .error e s' ∧ e.isFatal = false) ↔
        Whole s.queued ∧ ¬ Named s.queued) ∧
      (∀ e s', read s = .error e s' → e.isFatal = false → s' = past (announced s.queued) s) ∧
      (¬ Whole s.queued →
        ∃ e, read s = .error e (if Frame.Broken s.queued then past 8 s else exhausted s) ∧
          e.isFatal = true) := by
  -- In each case `read s` is known, and each part of the statement is about that one result.
  by_cases hwhole : Whole s.queued
  · by_cases hnamed : Named s.queued
    · obtain ⟨p, hread, hbytes⟩ := read_whole_named hwhole hnamed
      simp [hread, hwhole, hnamed, hbytes]
    · obtain ⟨e, hread, hfatal⟩ := read_whole_unnamed hwhole hnamed
      simp [hread, hwhole, hnamed, hfatal]
  · obtain ⟨e, hread, hfatal⟩ := read_not_whole hwhole
    simp [hread, hwhole, hfatal]

end Packet

end PictureTransfer
