import PictureTransfer.LittleEndian

/-!
# Byte sources

A source delivers the bytes that are queued on it, then possibly fails once,
then ends.  It may hand over fewer bytes a read than it is asked for, and
another count each time.  Where it may hand over none at all, reads see its end
in front of the bytes, which stay where they are.
`gather` reads until a count of bytes is there, the source ends, or it fails:

* `share_pos`, `share_le` — each read is handed some bytes and not too many;
* `gather_bytes`, `gather_queued` — it takes exactly the bytes it needs, or all
  there are, whatever the source hands over at a time;
* `gather_fault_of_le` — bytes that are there are read before any failure;
* `left_limited` — a limit on reads moves no byte.
-/

namespace PictureTransfer

/-- How a transfer fails, as far as a reader can tell the difference.  An
`interrupted` transfer is simply tried again. -/
inductive FaultKind where
  | interrupted
  | unexpectedEnd
  | other
  deriving DecidableEq, Repr

/-- A failed transfer, with the text that the connection gives for it. -/
structure Fault where
  kind : FaultKind
  message : String
  deriving DecidableEq, Repr

/-- The most bytes that one read hands over. -/
structure Limit where
  most : Nat
  pos : 0 < most
  deriving DecidableEq, Repr

/-- Bytes to come: those queued, then a failure if there is one, then the end,
and behind the end bytes that no read gets to. -/
structure Source where
  queued : Bytes
  fault : Option Fault := none
  limit : Option Limit := none
  /-- The places that no read goes past, each by the count of bytes queued behind it. -/
  pauses : List Nat := []
  beyond : Bytes := []
  deriving DecidableEq, Repr

namespace Source

/-- The source of a byte string and nothing else. -/
def ofBytes (bytes : Bytes) : Source where
  queued := bytes

/-- The source of the same bytes that hands over at most `most` bytes a read.
A read that is handed none takes that for the end, so with `most` zero all bytes
lie behind the end, and a failure behind them is not met. -/
def limited (most : Nat) (s : Source) : Source :=
  if h : 0 < most then { s with limit := some ⟨most, h⟩ }
  else if s.queued.isEmpty then s
  else { s with queued := [], fault := none, beyond := s.queued ++ s.beyond }

/-- The count of bytes that were not read. -/
def left (s : Source) : Nat := s.queued.length + s.beyond.length

/-- The most of `n` bytes that the limit allows a read. -/
def allowance (s : Source) (n : Nat) : Nat :=
  match s.limit with
  | none => n
  | some limit => min n limit.most

/-- The counts of bytes up to the pauses to come. -/
def ahead (s : Source) : List Nat :=
  (s.pauses.map (s.queued.length - ·)).filter (0 < ·)

/-- The most that one read for `n` bytes is handed. -/
def share (s : Source) (n : Nat) : Nat :=
  match s.ahead.min? with
  | none => s.allowance n
  | some next => min (s.allowance n) next

/-- One read for at most `n` bytes.  No bytes for `n > 0` means the end. -/
def read (n : Nat) : EStateM Fault Source Bytes := fun s =>
  if n = 0 then .ok [] s
  else if s.queued.isEmpty then
    match s.fault with
    | some fault => .error fault { s with fault := none }
    | none => .ok [] s
  else .ok (s.queued.take (s.share n)) { s with queued := s.queued.drop (s.share n) }

/-- What reading for a count of bytes came to: fewer bytes than that only at
the end or at a failure. -/
structure Gathered where
  bytes : Bytes
  fault : Option Fault
  source : Source

/-- Reads in at most `rounds` rounds.  Each takes a byte, meets the end or a
failure, or tries an interrupted read again. -/
def gatherIn : Nat → Nat → Source → Gathered
  | 0, _, s => ⟨[], none, s⟩
  | rounds + 1, n, s =>
      match read n s with
      | .error fault s' =>
          if fault.kind = .interrupted then gatherIn rounds n s' else ⟨[], some fault, s'⟩
      | .ok piece s' =>
          if piece.isEmpty then ⟨[], none, s'⟩
          else
            let more := gatherIn rounds (n - piece.length) s'
            ⟨piece ++ more.bytes, more.fault, more.source⟩

/-- Reads until `n` bytes are there, the source ends, or it fails.  A source
fails once, so one round more than the bytes asked for is enough. -/
def gather (n : Nat) (s : Source) : Gathered := gatherIn (n + 1) n s

/-- The failure that a read past the queued bytes meets: none where the
transfer is merely interrupted. -/
def pending (s : Source) : Option Fault :=
  match s.fault with
  | some fault => if fault.kind = .interrupted then none else some fault
  | none => none

theorem allowance_pos (s : Source) {n : Nat} (hn : 0 < n) : 0 < s.allowance n := by
  unfold allowance
  cases s.limit with
  | none => exact hn
  | some limit => exact Nat.lt_min.mpr ⟨hn, limit.pos⟩

theorem allowance_le (s : Source) (n : Nat) : s.allowance n ≤ n := by
  unfold allowance
  cases s.limit with
  | none => exact Nat.le_refl n
  | some limit => exact Nat.min_le_left n limit.most

/-- A read that asks for bytes is handed some. -/
theorem share_pos (s : Source) {n : Nat} (hn : 0 < n) : 0 < s.share n := by
  unfold share
  cases hnext : s.ahead.min? with
  | none => exact s.allowance_pos hn
  | some next =>
      have hahead : 0 < next := by simpa using (List.mem_filter.mp (List.min?_mem hnext)).2
      exact Nat.lt_min.mpr ⟨s.allowance_pos hn, hahead⟩

/-- No read is handed more than it asks for. -/
theorem share_le (s : Source) (n : Nat) : s.share n ≤ n := by
  unfold share
  cases s.ahead.min? with
  | none => exact s.allowance_le n
  | some next => exact Nat.le_trans (Nat.min_le_left _ next) (s.allowance_le n)

theorem gatherIn_eq (rounds n : Nat) (s : Source)
    (h : n + (if s.fault.isSome then 1 else 0) ≤ rounds) :
    gatherIn rounds n s =
      if n ≤ s.queued.length then
        ⟨s.queued.take n, none, { s with queued := s.queued.drop n }⟩
      else ⟨s.queued, s.pending, { s with queued := [], fault := none }⟩ := by
  induction rounds generalizing n s with
  | zero =>
      have hn : n = 0 := by omega
      subst hn
      simp [gatherIn]
  | succ rounds ih =>
      obtain ⟨queued, fault, limit, pauses, beyond⟩ := s
      rw [gatherIn]
      by_cases hn : n = 0
      · subst hn
        simp [read]
      · cases queued with
        | nil =>
            cases fault with
            | none => simp [read, hn, pending]
            | some fault =>
                by_cases hk : fault.kind = .interrupted
                · have hr : n + 0 ≤ rounds := by simp at h; omega
                  simp only [read, hn, if_false, List.isEmpty_nil, if_true, hk]
                  rw [ih n _ (by simpa using hr)]
                  simp [hn, pending, hk]
                · simp [read, hn, pending, hk]
        | cons b bs =>
            have hpos := share_pos ⟨b :: bs, fault, limit, pauses, beyond⟩
              (Nat.pos_of_ne_zero hn)
            have hle := share_le ⟨b :: bs, fault, limit, pauses, beyond⟩ n
            generalize hk : share ⟨b :: bs, fault, limit, pauses, beyond⟩ n = k at hpos hle
            have hread : read n ⟨b :: bs, fault, limit, pauses, beyond⟩ =
                .ok ((b :: bs).take k) ⟨(b :: bs).drop k, fault, limit, pauses, beyond⟩ := by
              simp [read, hn, hk]
            have hne : ((b :: bs).take k).isEmpty = false := by
              obtain ⟨k, rfl⟩ : ∃ j, k = j + 1 := ⟨k - 1, by omega⟩
              simp
            simp only [hread, hne, Bool.false_eq_true, if_false]
            rw [ih _ _ (by
              simp only [List.length_take, List.length_cons] at h ⊢
              omega)]
            simp only [List.length_take, List.length_drop, List.length_cons, pending]
            by_cases hle : n ≤ bs.length + 1
            · have hmin : min k (bs.length + 1) = k := by omega
              rw [if_pos (by omega), if_pos hle, hmin, List.drop_drop]
              have hadd : k + (n - k) = n := by omega
              simp only [hadd, Gathered.mk.injEq, and_true]
              calc (b :: bs).take k ++ ((b :: bs).drop k).take (n - k)
                  = (b :: bs).take (k + (n - k)) := List.take_add.symm
                _ = (b :: bs).take n := by rw [hadd]
            · have hpieces : ¬ n - min k (bs.length + 1) ≤ bs.length + 1 - k := by omega
              rw [if_neg hpieces, if_neg hle, List.take_append_drop]

/-- **What gathering comes to.**  Bytes that are there are taken and nothing
else is touched; past the end all bytes are taken and the failure with them. -/
theorem gather_eq (n : Nat) (s : Source) :
    s.gather n =
      if n ≤ s.queued.length then
        ⟨s.queued.take n, none, { s with queued := s.queued.drop n }⟩
      else ⟨s.queued, s.pending, { s with queued := [], fault := none }⟩ :=
  gatherIn_eq (n + 1) n s (by split <;> omega)

theorem gather_bytes (n : Nat) (s : Source) : (s.gather n).bytes = s.queued.take n := by
  rw [gather_eq]
  split
  · rfl
  · rw [List.take_of_length_le (by omega)]

theorem gather_queued (n : Nat) (s : Source) :
    (s.gather n).source.queued = s.queued.drop n := by
  rw [gather_eq]
  split
  · rfl
  · rw [List.drop_of_length_le (by omega)]

theorem gather_fault_of_le {n : Nat} {s : Source} (h : n ≤ s.queued.length) :
    (s.gather n).fault = none ∧ (s.gather n).source.fault = s.fault := by
  rw [gather_eq, if_pos h]
  exact ⟨rfl, rfl⟩

theorem left_limited (most : Nat) (s : Source) : (s.limited most).left = s.left := by
  unfold limited
  split
  · rfl
  split <;> simp [left]

end Source

end PictureTransfer
