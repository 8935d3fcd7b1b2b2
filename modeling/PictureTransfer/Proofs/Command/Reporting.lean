import PictureTransfer.Proofs.Command.Play

/-!
# What commands report and save

Two commands have the responder list ids and then ask for each of them in its turn, and one has
it send the content of an object.  What is printed and what is saved follows the answers: there is
an entry for each id that is told about, in the order of the list, up to the first id that is not,
and a file only of data that came with a response that it was sent.  An entry is one line, unless
the responder's texts in it have line breaks of their own: these are printed as they are.

* `Command.listing_storages`, `Command.listing_objects` — lists, by what the inquiries come to
  (`Command.Inquired`);
* `Report.lineBreaks_storage`, `Report.lineBreaks_object` — the lines that an entry makes up;
* `Command.fetching_get` — content, by what was received (`Session.Received`).
-/

namespace PictureTransfer

theorem OperationParams.none_fits : ([] : List UInt32).length ≤ 5 := by simp

theorem OperationParams.one_fits (value : UInt32) : [value].length ≤ 5 := by simp

namespace Session

/-- The data of an operation that the responder carried out: all that it sent for it, in the order
of its arrival. -/
def Received (s : Session) (operation : OperationCode) (params : OperationParams)
    (content : Bytes) : Prop :=
  ∃ (e : Exchange) (line : Line),
    Cycle.Ran operation s.counter.advance.last params none e s.command line ∧
      e.response.transactionId = s.counter.advance.last ∧ e.response.code.isOk = true ∧
      content = e.content.getD []

variable {s s' : Session} {operation : OperationCode} {params : OperationParams} {content : Bytes}

/-- **A transaction** is an exchange that was read. -/
theorem exchange_of_transact (hready : s.phase = .ready) {t : Transaction}
    (h : transact operation params.values none s = .ok t s') :
    ∃ (e : Exchange) (line : Line),
      Cycle.Ran operation s.counter.advance.last params none e s.command line ∧
        e.response.transactionId = s.counter.advance.last ∧
        t = ⟨operation, s.counter.advance.last, e.response, e.content⟩ := by
  cases hrun : Cycle.run operation s.counter.advance.last params none s.command with
  | error cause line =>
      have hfails := transact_eq hready operation params none
      rw [hrun, h] at hfails
      simp at hfails
  | ok cycle line =>
      obtain ⟨e, hid, rfl, hran⟩ := Cycle.run_ok hrun
      have hends := transact_of_exchange hready hrun
      rw [h] at hends
      refine ⟨e, line, hran, hid, ?_⟩
      unfold Exchange.outcome at hends
      split at hends
      · exact (EStateM.Result.ok.inj hends).1
      · simp [ending] at hends

/-- **Data that was fetched** was received. -/
theorem received_of_fetch (h : fetch operation params.values s = .ok content s') :
    s.Received operation params content := by
  obtain ⟨t, middle, hcarried, hcontent⟩ := bind_ok_iff.mp h
  obtain ⟨u, last, htransact, hgiven⟩ := bind_ok_iff.mp hcarried
  obtain ⟨rfl, -⟩ := pure_ok_iff.mp hcontent
  by_cases hready : s.phase = .ready
  · obtain ⟨e, line, hran, hid, rfl⟩ := exchange_of_transact hready htransact
    cases hconfirmed : Transaction.confirmed
        ⟨operation, s.counter.advance.last, e.response, e.content⟩ with
    | error cause =>
        rw [hconfirmed] at hgiven
        exact absurd hgiven throw_ne_ok
    | ok confirmed =>
        rw [hconfirmed] at hgiven
        obtain ⟨rfl, -⟩ := pure_ok_iff.mp hgiven
        obtain ⟨hok, rfl⟩ := Transaction.confirmed_eq_ok_iff.mp hconfirmed
        exact ⟨e, line, hran, hid, hok, rfl⟩
  · rw [transact_of_not_ready hready] at htransact
    exact absurd htransact (by simp)

/-- A call that is answered was carried out. -/
theorem perform_of_answer {c : Call} {answer : c.Answer} (h : s.answer c = .ok answer) :
    ∃ s', perform c s = .ok answer s' := by
  unfold Session.answer at h
  cases hperform : perform c s with
  | ok found s' =>
      rw [hperform] at h
      exact ⟨s', Except.ok.inj h ▸ rfl⟩
  | error cause s' =>
      rw [hperform] at h
      exact absurd h (by simp)

end Session

namespace Stage

@[simp] theorem print_nil (stage : Stage) : stage.print [] = stage := by simp [print]

@[simp] theorem print_print (stage : Stage) (lines more : List String) :
    (stage.print lines).print more = stage.print (lines ++ more) := by simp [print]

end Stage

/-! ## Lines -/

namespace Report

open Usage (padLeft padRight)

/-- The line breaks in a text. -/
def lineBreaks (text : String) : Nat := text.toList.count '\n'

@[simp] theorem lineBreaks_append (text more : String) :
    lineBreaks (text ++ more) = lineBreaks text + lineBreaks more := by
  simp [lineBreaks]

theorem lineBreaks_of_not_mem {text : String} (h : '\n' ∉ text.toList) : lineBreaks text = 0 :=
  List.count_eq_zero.mpr h

/-! Blanks and figures have none. -/

@[simp] theorem lineBreaks_padRight (width : Nat) (text : String) :
    lineBreaks (padRight width text) = lineBreaks text := by
  simp [lineBreaks, padRight, List.count_replicate]

@[simp] theorem lineBreaks_padLeft (width : Nat) (text : String) :
    lineBreaks (padLeft width text) = lineBreaks text := by
  simp [lineBreaks, padLeft, List.count_replicate]

theorem upperDigit_ne_lineBreak (n : Nat) : Hex.upperDigit n ≠ '\n' := by
  have hall : ∀ d : Fin 16, Hex.upperDigit d ≠ '\n' := by decide
  have hmod : Hex.upperDigit n = Hex.upperDigit (n % 16) := by simp [Hex.upperDigit]
  exact hmod ▸ hall ⟨n % 16, Nat.mod_lt n (by decide)⟩

@[simp] theorem lineBreaks_upper (width n : Nat) : lineBreaks (Hex.upper width n) = 0 := by
  have hdigits : '\n' ∉ Hex.upperDigits width n := by
    induction width generalizing n with
    | zero => simp [Hex.upperDigits]
    | succ width ih =>
        simp only [Hex.upperDigits, List.mem_append, List.mem_singleton, not_or]
        exact ⟨ih (n / 16), (upperDigit_ne_lineBreak n).symm⟩
  refine lineBreaks_of_not_mem ?_
  simpa [Hex.upper] using hdigits

@[simp] theorem lineBreaks_repr (n : Nat) : lineBreaks n.repr = 0 := by
  refine lineBreaks_of_not_mem fun hmem => ?_
  rw [Nat.toList_repr] at hmem
  exact absurd (Nat.isDigit_of_mem_toDigits (by decide) (by decide) hmem) (by decide)

@[simp] theorem lineBreaks_mebibytes (size : UInt64) : lineBreaks (mebibytes size) = 0 := by
  have hfigures : toString (size >>> 20) = (size >>> 20).toNat.repr := rfl
  have hunit : lineBreaks " MiB" = 0 := by decide
  rw [mebibytes, lineBreaks_append, lineBreaks_padLeft, hfigures, lineBreaks_repr, hunit]

/-- **What is printed of a storage** is one line but for its description. -/
theorem lineBreaks_storage (storageId : UInt32) (s : StorageInfo) :
    lineBreaks (storage storageId s) = lineBreaks s.storageDescription := by
  have hmark : lineBreaks (if s.isReadOnly then "  (read-only)" else "") = 0 := by
    split <;> decide
  have hgap : lineBreaks "  " = 0 := by decide
  have hblank : lineBreaks " " = 0 := by decide
  have hof : lineBreaks " free of " = 0 := by decide
  simp [storage, hmark, hgap, hblank, hof]

/-- **What is printed of an object** is one line but for its name and its date. -/
theorem lineBreaks_object (handle : UInt32) (o : ObjectInfo) :
    lineBreaks (object handle o) = lineBreaks o.filename + lineBreaks o.captureDate := by
  have hfigures : toString o.objectCompressedSize = o.objectCompressedSize.toNat.repr := rfl
  have hgap : lineBreaks "  " = 0 := by decide
  have hblank : lineBreaks " " = 0 := by decide
  simp [object, hfigures, hgap, hblank]

end Report

/-- **The lines on the output** are one for each entry, and one more for each line break in it. -/
theorem Outcome.lineBreaks_stdout (outcome : Outcome) :
    Report.lineBreaks outcome.stdout =
      outcome.printed.length + Report.lineBreaks (String.join outcome.printed) := by
  have hentries : ∀ entries : List String,
      Report.lineBreaks (String.join (entries.map (· ++ "\n"))) =
        entries.length + Report.lineBreaks (String.join entries) := by
    intro entries
    induction entries with
    | nil => rfl
    | cons entry later ih =>
        have hbreak : Report.lineBreaks "\n" = 1 := by decide
        simp only [List.map_cons, String.join_cons, Report.lineBreaks_append, ih, hbreak,
          List.length_cons]
        omega
  exact hentries outcome.printed

namespace Command

/-! ## Lists -/

section Lists

variable {α : Type} {around : Surroundings}

/-- Ids are told about one after the other, up to the first that is not: the entries are those of
the ids before it. -/
inductive Inquired (ask : UInt32 → Stage → Except Error α × Stage) (shown : UInt32 → α → String) :
    List UInt32 → Stage → List String → Except Failure Unit → Stage → Prop
  | done (stage : Stage) : Inquired ask shown [] stage [] (.ok ()) stage
  | failed {id : UInt32} {stage last : Stage} {cause : Error}
      (h : ask id stage = (.error cause, last)) (later : List UInt32) :
      Inquired ask shown (id :: later) stage [] (.error (.call cause)) last
  | told {id : UInt32} {stage middle last : Stage} {found : α} {later : List UInt32}
      {entries : List String} {result : Except Failure Unit}
      (h : ask id stage = (.ok found, middle))
      (hlater : Inquired ask shown later middle entries result last) :
      Inquired ask shown (id :: later) stage (shown id found :: entries) result last

/-- What comes of a list: nothing is printed without it, and else what comes of its ids. -/
inductive Listing (ids : Stage → Except Error (List UInt32) × Stage)
    (ask : UInt32 → Stage → Except Error α × Stage) (shown : UInt32 → α → String)
    (stage : Stage) : Ending Unit × Stage → Prop
  | unlisted {cause : Error} {last : Stage} (h : ids stage = (.error cause, last)) :
      Listing ids ask shown stage (.ok (.error (.call cause)), last)
  | listed {found : List UInt32} {middle last : Stage} {entries : List String}
      {result : Except Failure Unit} (h : ids stage = (.ok found, middle))
      (hentries : Inquired ask shown found middle entries result last) :
      Listing ids ask shown stage (.ok result, last.print entries)

variable {w : UInt32 → Work α} {ask : UInt32 → Stage → Except Error α × Stage}

/-- **One id after the other.**  The entries stand behind what was printed before. -/
theorem inquired_forM
    (hask : ∀ id stage, Procedure.play around (w id).run stage = Work.called (ask id stage))
    (hprint : ∀ id stage lines,
      ask id (Stage.print lines stage) = ((ask id stage).1, (ask id stage).2.print lines))
    (shown : UInt32 → α → String) (ids : List UInt32) (stage : Stage) :
    ∃ entries result last, Inquired ask shown ids stage entries result last ∧
      ∀ before, Procedure.play around
        (ids.forM fun id => do
          let found ← w id
          Work.print (shown id found)).run (stage.print before) =
          (.ok result, last.print (before ++ entries)) := by
  induction ids generalizing stage with
  | nil =>
      refine ⟨[], .ok (), stage, .done stage, fun before => ?_⟩
      rw [List.append_nil]
      rfl
  | cons id later ih =>
      have hfirst (before : List String) : Procedure.play around (w id).run (stage.print before) =
          Work.called ((ask id stage).1, (ask id stage).2.print before) := by
        rw [hask, hprint]
      rcases hfound : ask id stage with ⟨cause | found, middle⟩
      · refine ⟨[], .error (.call cause), middle, .failed hfound later, fun before => ?_⟩
        rw [Work.play_forM, Work.play_bind, hfirst, hfound, List.append_nil]
        rfl
      · obtain ⟨entries, result, last, hlater, hplay⟩ := ih middle
        refine ⟨shown id found :: entries, result, last, .told hfound hlater, fun before => ?_⟩
        rw [Work.play_forM, Work.play_bind, hfirst, hfound]
        have hnext := hplay (before ++ [shown id found])
        rw [← Stage.print_print, List.append_assoc] at hnext
        exact hnext

/-- **A list, and then its ids** one after the other. -/
theorem listing_of_list {wids : Work (List UInt32)}
    {ids : Stage → Except Error (List UInt32) × Stage}
    (hids : ∀ stage, Procedure.play around wids.run stage = Work.called (ids stage))
    (hask : ∀ id stage, Procedure.play around (w id).run stage = Work.called (ask id stage))
    (hprint : ∀ id stage lines,
      ask id (Stage.print lines stage) = ((ask id stage).1, (ask id stage).2.print lines))
    (shown : UInt32 → α → String) (stage : Stage) :
    Listing ids ask shown stage (Procedure.play around (do
      let found ← wids
      found.forM fun id => do
        let told ← w id
        Work.print (shown id told) : Work Unit).run stage) := by
  rw [Work.play_bind, hids]
  rcases hfound : ids stage with ⟨cause | found, middle⟩
  · exact .unlisted hfound
  · obtain ⟨entries, result, last, hentries, hplay⟩ := inquired_forM hask hprint shown found middle
    have hrest := hplay []
    rw [Stage.print_nil, List.nil_append] at hrest
    have hlisted := Listing.listed hfound hentries
    rw [← hrest] at hlisted
    exact hlisted

variable (around) (responder : InitCommandAck) (stage : Stage)

/-- **Storages** are told about in the order in which they are listed. -/
theorem listing_storages :
    Listing (Stage.call .getStorageIds) (fun id => Stage.call (.getStorageInfo id)) Report.storage
      stage ((work responder storages).run.play around stage) :=
  listing_of_list (fun stage => Work.play_call .getStorageIds stage)
    (fun id stage => Work.play_call (.getStorageInfo id) stage)
    (fun id stage lines => stage.call_print (.getStorageInfo id) lines) Report.storage stage

/-- **Objects** too. -/
theorem listing_objects (storageId : UInt32) :
    Listing (Stage.call (.getObjectHandles storageId 0 0))
      (fun handle => Stage.call (.getObjectInfo handle)) Report.object
      stage ((work responder (objects storageId)).run.play around stage) :=
  listing_of_list (fun stage => Work.play_call (.getObjectHandles storageId 0 0) stage)
    (fun handle stage => Work.play_call (.getObjectInfo handle) stage)
    (fun handle stage lines => stage.call_print (.getObjectInfo handle) lines) Report.object stage

end Lists

/-! ## Content -/

/-- The operation that has the content of an object sent, or that of its thumbnail. -/
def contentOperation (thumb : Bool) : OperationCode := if thumb then .getThumb else .getObject

/-- The call for the content of an object, or for that of its thumbnail. -/
def askContent (handle : UInt32) (thumb : Bool) : Stage → Except Error Bytes × Stage :=
  if thumb then Stage.call (.getThumb handle) else Stage.call (.getObject handle)

/-- The content is what came with a response that the operation was carried out, once the
responder had replied. -/
def Arrived (stage : Stage) (handle : UInt32) (thumb : Bool) (content : Bytes) : Prop :=
  ∃ feeds : List Move, (∀ move ∈ feeds, Session.IsFeed move) ∧
    (stage.session.run feeds).Received (contentOperation thumb)
      ⟨[handle], OperationParams.one_fits handle⟩ content

/-- What comes of content that is to be saved: no file without it, none where it cannot be
written, and else a file of it. -/
inductive Fetching (around : Surroundings) (handle : UInt32) (output : String) (thumb : Bool)
    (stage : Stage) : Ending Unit × Stage → Prop
  | failed {cause : Error} {last : Stage} (h : askContent handle thumb stage = (.error cause, last))
      (hsaved : last.saved = stage.saved) :
      Fetching around handle output thumb stage (.ok (.error (.call cause)), last)
  | refused {content : Bytes} {cause : String} {last : Stage}
      (h : askContent handle thumb stage = (.ok content, last))
      (hrefusal : around.refusal output = some cause) (hsaved : last.saved = stage.saved) :
      Fetching around handle output thumb stage (.ok (.error (.writing output cause)), last)
  | saved {content : Bytes} {last : Stage}
      (h : askContent handle thumb stage = (.ok content, last))
      (harrived : Arrived stage handle thumb content) (hrefusal : around.refusal output = none) :
      Fetching around handle output thumb stage
        (.ok (.ok ()), { last with saved := stage.saved ++ [(output, content)] })

variable {around : Surroundings} {stage : Stage} {handle : UInt32} {content : Bytes}

/-- What the call is answered with has arrived. -/
theorem arrived_of_askContent {thumb : Bool}
    (h : (askContent handle thumb stage).1 = .ok content) : Arrived stage handle thumb content := by
  cases thumb with
  | true =>
      obtain ⟨_, hfetch⟩ := Session.perform_of_answer
        ((Stage.call_answer (.getThumb handle) stage).symm.trans h)
      exact ⟨_, stage.isFeed_before (.getThumb handle), Session.received_of_fetch hfetch⟩
  | false =>
      obtain ⟨_, hfetch⟩ := Session.perform_of_answer
        ((Stage.call_answer (.getObject handle) stage).symm.trans h)
      exact ⟨_, stage.isFeed_before (.getObject handle), Session.received_of_fetch hfetch⟩

theorem askContent_saved (handle : UInt32) (thumb : Bool) (stage : Stage) :
    (askContent handle thumb stage).2.saved = stage.saved := by
  cases thumb with
  | true => exact (stage.call_output (.getThumb handle)).2
  | false => exact (stage.call_output (.getObject handle)).2

/-- **Content is saved** as it was received, and nothing else is. -/
theorem fetching_get (around : Surroundings) (responder : InitCommandAck) (handle : UInt32)
    (output : String) (thumb : Bool) (stage : Stage) :
    Fetching around handle output thumb stage
      ((work responder (get handle output thumb)).run.play around stage) := by
  have hsaved := askContent_saved handle thumb stage
  have hplay : (work responder (get handle output thumb)).run.play around stage =
      match Work.called (askContent handle thumb stage) with
      | (.ok (.ok content), stage) => (Work.save output content).run.play around stage
      | (.ok (.error failure), stage) => (.ok (.error failure), stage)
      | (.error crash, stage) => (.error crash, stage) := by
    cases thumb with
    | true =>
        have hcall : askContent handle true stage = stage.call (.getThumb handle) := rfl
        refine (Work.play_bind (Work.call (.getThumb handle)) (Work.save output) stage).trans ?_
        rw [Work.play_call, hcall]
        rcases stage.call (.getThumb handle) with ⟨_ | _, _⟩ <;> rfl
    | false =>
        have hcall : askContent handle false stage = stage.call (.getObject handle) := rfl
        refine (Work.play_bind (Work.call (.getObject handle)) (Work.save output) stage).trans ?_
        rw [Work.play_call, hcall]
        rcases stage.call (.getObject handle) with ⟨_ | _, _⟩ <;> rfl
  rw [hplay]
  rcases hfound : askContent handle thumb stage with ⟨cause | content, last⟩
  · rw [hfound] at hsaved
    exact .failed hfound hsaved
  · have harrived : Arrived stage handle thumb content :=
      arrived_of_askContent (congrArg Prod.fst hfound)
    rw [hfound] at hsaved
    simp only [Work.called, Work.play_save]
    cases hrefusal : around.refusal output with
    | none =>
        rw [hsaved]
        exact .saved hfound harrived hrefusal
    | some cause => exact .refused hfound hrefusal hsaved

end Command

end PictureTransfer
