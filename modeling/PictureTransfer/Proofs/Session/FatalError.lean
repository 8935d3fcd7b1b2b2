import PictureTransfer.Proofs.Session.OutOfStep

/-!
# Errors that pass for fatal

`Error.isFatal` is there to say that the connection can deliver no further packets, and an
operation that fails because of the connection has closed the session.  But the error of data
that ends before the value that is read in it is the same as that of a connection that ends, so
it passes for fatal too.  The data of a transaction is read when all of its packets are there:
the connection is in step then, and the session ready for the next call.

* `Session.ReadsShort` — a call whose data ends early;
* `Session.perform_fatal_cases` — an error that is fatal has closed the session, or is that
  of data that ends early.
-/

namespace PictureTransfer

namespace Session

variable {s s' : Session} {err : Error} {call : Call}

/-- The transaction of the call comes to an end and is carried out, and its data ends before the
value that the call reads in it. -/
inductive ReadsShort (call : Call) (s : Session) : Error → Session → Prop where
  | intro {r : Request} {t : Transaction} {s' : Session} {what : String}
      (hrequest : call.request? = some r)
      (htransact : transact r.operation r.params.values r.dataOut s = .ok t s')
      (hok : t.isOk = true)
      (hread : call.read t = .error (.wire (.endOfStream what))) :
      ReadsShort call s (.wire (.endOfStream what)) s'

/-- An operation that is not asked for was refused for its parameters, and that is not fatal. -/
theorem not_fatal_of_request? (hready : s.phase = .ready) (hoperation : call.isOperation = true)
    (hrequest : call.request? = none) (h : perform call s = .error err s') :
    err.isFatal = false := by
  cases call with
  | transact operation params dataOut =>
      have hmany := Call.length_of_request? hrequest
      have hrefused := (transact_tooMany hready operation hmany dataOut).symm.trans h
      obtain ⟨rfl, -⟩ := EStateM.Result.error.inj hrefused
      rfl
  | sendCancel | probe | close => exact Bool.noConfusion hoperation
  | _ => simp [Call.request?] at hrequest

/-- **Which errors pass for fatal.**  If an operation of a ready session fails with a fatal error,
the session is shut down, or its data ended early; and if its data ends early, it does fail with
a fatal error and leaves the session ready. -/
theorem perform_fatal_cases (hready : s.phase = .ready) (hoperation : call.isOperation = true) :
    (∀ err s', perform call s = .error err s' → err.isFatal = true →
      s'.Shut ∨ ReadsShort call s err s') ∧
    ∀ err s', ReadsShort call s err s' →
      perform call s = .error err s' ∧ err.isFatal = true ∧ s'.phase = .ready := by
  constructor
  · intro err s' h hfatal
    cases hrequest : call.request? with
    | none => simp [not_fatal_of_request? hready hoperation hrequest h] at hfatal
    | some r =>
        rcases (perform_error_iff hrequest).mp h with htransact | ⟨t, htransact, hread⟩
        · rcases transact_error_cases hready htransact with hshut | ⟨violation, hdata, rfl, -⟩
          · exact .inl hshut
          · have hframing : violation.breaksFraming = true := hfatal
            rw [(Violation.isOfPacket_of_isOfData hdata).2] at hframing
            exact Bool.noConfusion hframing
        · obtain ⟨what, rfl⟩ := (Call.read_error hread).isFatal_iff.mp hfatal
          exact .inr (.intro hrequest htransact (Call.isOk_of_read hread) hread)
  · intro err s' hshort
    obtain ⟨hrequest, htransact, -, hread⟩ := hshort
    obtain ⟨⟨e, hin⟩, -⟩ := inStep_of_ok hready htransact
    exact ⟨(perform_error_iff hrequest).mpr (.inr ⟨_, htransact, hread⟩), rfl, hin.phase⟩

/-- Two bytes that are sent for the list of the storages, which begins with its count of four
bytes. -/
def twoBytes : Exchange := firstDone [.data (.piece ⟨1, [2, 0]⟩)]

/-- They come in full, and are not enough. -/
theorem transact_twoBytes :
    ∃ t s', transact .getStorageIds [] none (facing twoBytes.toBytes) = .ok t s' ∧
      s'.phase = .ready ∧
      Call.getStorageIds.read t = .error (.wire (.endOfStream "array count")) := by
  have hexpects : (facing twoBytes.toBytes).Expects twoBytes [] := expects_facing _
  obtain ⟨s', htransact, hphase⟩ := hexpects.transact_ok .getStorageIds ⟨[], by decide⟩ none
    (by decide) (by decide) ⟨_, rfl⟩
  exact ⟨_, s', htransact, hphase, rfl⟩

/-- The call that asked for it fails with a fatal error, and leaves the session ready. -/
theorem perform_fatal_cases_twoBytes :
    (facing twoBytes.toBytes).phase = .ready ∧ Call.getStorageIds.isOperation = true ∧
      ∃ err s', ReadsShort .getStorageIds (facing twoBytes.toBytes) err s' ∧
        perform .getStorageIds (facing twoBytes.toBytes) = .error err s' ∧
        err.isFatal = true ∧ s'.phase = .ready := by
  obtain ⟨t, s', htransact, -, hread⟩ := transact_twoBytes
  have hshort := @ReadsShort.intro .getStorageIds _ _ _ _ _ rfl htransact
    (Call.isOk_of_read hread) hread
  exact ⟨rfl, rfl, _, s', hshort, (perform_fatal_cases rfl rfl).2 _ s' hshort⟩

/-- **A fatal error of a session that stays ready**: the data came in full, and then the response
that says that the operation was carried out. -/
theorem getStorageIds_twoBytes :
    (facing twoBytes.toBytes).phase = .ready ∧
      ∃ s', perform .getStorageIds (facing twoBytes.toBytes) =
          .error (.wire (.endOfStream "array count")) s' ∧
        (Error.wire (.endOfStream "array count")).isFatal = true ∧ s'.phase = .ready := by
  obtain ⟨t, s', htransact, hphase, hread⟩ := transact_twoBytes
  exact ⟨rfl, s', (perform_error_iff rfl).mpr (.inr ⟨t, htransact, hread⟩), rfl, hphase⟩

end Session

end PictureTransfer
