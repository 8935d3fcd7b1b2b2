import PictureTransfer.Packet.Body
import PictureTransfer.Proofs.Wire.Spelling

/-!
# Payloads and what they carry

Payloads are read in full, so a body has one payload and a payload at most one
body: `Body.decode` accepts `Body.encode` of each body and nothing else.  This
file shows it of the kinds of packet that hold no text: those that an operation is made
of, the request, the response and the packets of data, those that come on their own, the
event and the probe, and those that are one number.

* `Body.fields_ok_iff`, `Body.fields_whole_ok_iff` — fields at the front of a payload, and
  fields that make up all of it;
* `Body.word_ok_iff`, `Body.chunk_ok_iff` — the shapes that several kinds have in common.
-/

namespace PictureTransfer

namespace Params

variable {most : Nat}

theorem words_flatMap (values : List UInt32) : words (values.flatMap encodeUInt32) = values := by
  induction values with
  | nil => rfl
  | cons n ns ih =>
      have hfour : ∃ a b c d, encodeUInt32 n = [a, b, c, d] := ⟨_, _, _, _, rfl⟩
      obtain ⟨a, b, c, d, hn⟩ := hfour
      have hback : UInt32.ofNat (LittleEndian.decode [a, b, c, d]) = n := by
        rw [← hn, encodeUInt32, LittleEndian.decode_encode_of_lt n.toNat_lt, UInt32.ofNat_toNat]
      rw [List.flatMap_cons, hn]
      simp only [List.cons_append, List.nil_append, words, hback, ih]

/-- Whole numbers are written back as they were read. -/
theorem flatMap_words {tail : Bytes} (h : tail.length % 4 = 0) :
    (words tail).flatMap encodeUInt32 = tail := by
  fun_induction words tail with
  | case1 a b c d rest ih =>
      have hrest : rest.length % 4 = 0 := by
        simp only [List.length_cons] at h
        omega
      have hlt : LittleEndian.decode [a, b, c, d] < UInt32.size :=
        LittleEndian.decode_lt [a, b, c, d]
      have hback :
          encodeUInt32 (UInt32.ofNat (LittleEndian.decode [a, b, c, d])) = [a, b, c, d] := by
        rw [encodeUInt32, UInt32.toNat_ofNat_of_lt' hlt]
        exact LittleEndian.encode_decode [a, b, c, d]
      rw [List.flatMap_cons, hback, ih hrest]
      rfl
  | case2 tail hshort =>
      rcases tail with _ | ⟨a, _ | ⟨b, _ | ⟨c, _ | ⟨d, rest⟩⟩⟩⟩
      · rfl
      · simp at h
      · simp at h
      · simp at h
      · exact absurd rfl (hshort a b c d rest)

theorem length_toBytes (params : Params most) :
    params.toBytes.length = 4 * params.values.length := by
  obtain ⟨values, hlength⟩ := params
  simp only [toBytes]
  induction values with
  | nil => rfl
  | cons n ns ih =>
      have := ih (Nat.le_of_succ_le hlength)
      simp only [List.flatMap_cons, List.length_append, length_encodeUInt32,
        List.length_cons] at this ⊢
      omega

theorem ofList_ok_iff {values : List UInt32} {params : Params most} :
    ofList most values = .ok params ↔ params.values = values := by
  unfold ofList
  split
  · simp only [Except.ok.injEq]
    constructor
    · intro hspelt
      subst hspelt
      rfl
    · intro hspelt
      subst hspelt
      rfl
  · rename_i hmany
    simp only [reduceCtorEq, false_iff]
    intro hspelt
    subst hspelt
    exact hmany params.length_le

theorem ofBytes_ok_iff {kind : PacketKind} {tail : Bytes} {params : Params most} :
    ofBytes most kind tail = .ok params ↔ tail = params.toBytes := by
  unfold ofBytes
  constructor
  · intro h
    split at h
    · simp at h
    · rename_i hwhole
      rw [toBytes, ofList_ok_iff.mp h, flatMap_words (by omega)]
  · intro hspelt
    subst hspelt
    have hwhole : params.toBytes.length % 4 = 0 := by
      rw [length_toBytes]
      omega
    rw [if_neg (by omega)]
    exact ofList_ok_iff.mpr (words_flatMap params.values).symm

end Params

namespace Body

/-- Fields are read off the front of a payload, and what follows is given. -/
theorem fields_ok_iff {α : Type} {kind : PacketKind} {decoder : Decoder α}
    {spells : α → Bytes → Prop} (h : decoder.Reads spells) {payload rest : Bytes} {a : α} :
    fields kind decoder payload = .ok (a, rest) ↔
      ∃ bytes, spells a bytes ∧ payload = bytes ++ rest := by
  unfold fields
  constructor
  · intro hfields
    cases hs : decoder (.ofBytes payload) with
    | error e s => simp [hs] at hfields
    | ok b s =>
        simp only [hs, Except.ok.injEq, Prod.mk.injEq] at hfields
        obtain ⟨rfl, rfl⟩ := hfields
        obtain ⟨bytes, rest, hspells, hqueued, rfl⟩ := (h _ _ _).mp hs
        exact ⟨bytes, hspells, hqueued⟩
  · intro hspelt
    obtain ⟨bytes, hspells, rfl⟩ := hspelt
    have hs := (h (.ofBytes (bytes ++ rest)) _ a).mpr ⟨bytes, rest, hspells, rfl, rfl⟩
    simp [hs]

theorem exactLength_ok_iff {kind : PacketKind} {payload : Bytes} {expected : Nat} {u : Unit} :
    exactLength kind payload expected = .ok u ↔ payload.length = expected := by
  unfold exactLength
  split <;> simp_all

theorem leastLength_ok_iff {kind : PacketKind} {payload : Bytes} {least : Nat} {u : Unit} :
    leastLength kind payload least = .ok u ↔ least ≤ payload.length := by
  unfold leastLength
  split <;> simp_all

/-- Fields that make up the whole of a payload. -/
theorem fields_whole_ok_iff {α : Type} {kind : PacketKind} {decoder : Decoder α}
    {spells : α → Bytes → Prop} (h : decoder.Reads spells) {payload : Bytes} {a : α} :
    (do
      let (body, rest) ← fields kind decoder payload
      exactLength kind payload (payload.length - rest.length)
      pure body) = .ok a ↔ spells a payload := by
  simp only [except_bind_ok_iff, exactLength_ok_iff, Prod.exists, fields_ok_iff h,
    except_pure_ok_iff]
  constructor
  · intro hspelt
    obtain ⟨body, rest, ⟨bytes, hspells, rfl⟩, _, hlength, rfl⟩ := hspelt
    have hrest : rest = [] := by
      apply List.eq_nil_of_length_eq_zero
      rw [List.length_append] at hlength
      omega
    rwa [hrest, List.append_nil]
  · intro hspells
    exact ⟨a, [], ⟨payload, hspells, (List.append_nil _).symm⟩, (), rfl, rfl⟩

/-- **Fields that leave bytes behind** have their payload refused for its length. -/
theorem fields_trailing {α : Type} {kind : PacketKind} {decoder : Decoder α}
    {spells : α → Bytes → Prop} (h : decoder.Reads spells) {payload bytes rest : Bytes} {a : α}
    (hspelt : spells a bytes) (hpayload : payload = bytes ++ rest) (hrest : rest ≠ []) :
    (do
      let (body, rest) ← fields kind decoder payload
      exactLength kind payload (payload.length - rest.length)
      pure body) = .error (.invalidPayload kind (.notExactly bytes.length payload.length)) := by
  have hfields : fields kind decoder payload = .ok (a, rest) :=
    (fields_ok_iff h).mpr ⟨bytes, hspelt, hpayload⟩
  have hlonger := List.length_pos_iff.mpr hrest
  have hlength : payload.length = bytes.length + rest.length := by
    rw [hpayload, List.length_append]
  have hexpected : payload.length - rest.length = bytes.length := by omega
  have hrefused : ¬ payload.length = bytes.length := by omega
  simp only [hfields, bind, Except.bind, hexpected, exactLength, if_neg hrefused]

theorem word_ok_iff {kind : PacketKind} {payload : Bytes} {n : UInt32} :
    word kind payload = .ok n ↔ payload = encodeUInt32 n := by
  unfold word
  simp only [except_bind_ok_iff, exactLength_ok_iff, Prod.exists,
    fields_ok_iff Decoder.reads_uint32, except_pure_ok_iff]
  constructor
  · intro hspelt
    obtain ⟨_, hlength, number, rest, ⟨bytes, rfl, rfl⟩, rfl⟩ := hspelt
    have hrest : rest = [] := by
      apply List.eq_nil_of_length_eq_zero
      rw [List.length_append, length_encodeUInt32] at hlength
      omega
    rw [hrest, List.append_nil]
  · intro hspelt
    subst hspelt
    exact ⟨(), length_encodeUInt32 n, n, [], ⟨_, rfl, (List.append_nil _).symm⟩, rfl⟩

/-- A body that is one number under another name. -/
theorem wrapped_word_ok_iff {α : Type} {kind : PacketKind} {payload : Bytes} {wrap : UInt32 → α}
    {number : α → UInt32} (hwrap : ∀ a, wrap (number a) = a) (hnumber : ∀ n, number (wrap n) = n)
    {a : α} :
    (do pure (wrap (← word kind payload))) = .ok a ↔ payload = encodeUInt32 (number a) := by
  simp only [except_bind_ok_iff, word_ok_iff, except_pure_ok_iff]
  constructor
  · intro hspelt
    obtain ⟨n, rfl, rfl⟩ := hspelt
    rw [hnumber]
  · intro hspelt
    exact ⟨number a, hspelt, hwrap a⟩

theorem chunk_ok_iff {kind : PacketKind} {payload : Bytes} {m : DataChunk} :
    chunk kind payload = .ok m ↔ payload = encodeUInt32 m.transactionId ++ m.chunk := by
  unfold chunk
  simp only [except_bind_ok_iff, leastLength_ok_iff, Prod.exists,
    fields_ok_iff Decoder.reads_uint32, except_pure_ok_iff]
  constructor
  · intro hspelt
    obtain ⟨_, _, id, rest, ⟨bytes, rfl, rfl⟩, rfl⟩ := hspelt
    rfl
  · intro hspelt
    subst hspelt
    refine ⟨(), by simp, m.transactionId, m.chunk, ⟨_, rfl, rfl⟩, rfl⟩

/-- **The opening of the event connection** has one payload. -/
theorem decode_initEventRequest_ok_iff {payload : Bytes} {m : InitEventRequest} :
    decode .initEventRequest payload = .ok m ↔ payload = encode .initEventRequest m :=
  wrapped_word_ok_iff (fun _ => rfl) fun _ => rfl

/-- **A refusal** has one payload. -/
theorem decode_initFail_ok_iff {payload : Bytes} {m : InitFail} :
    decode .initFail payload = .ok m ↔ payload = encode .initFail m :=
  wrapped_word_ok_iff (fun _ => rfl) fun _ => rfl

/-- **Giving up a transaction** has one payload. -/
theorem decode_cancel_ok_iff {payload : Bytes} {m : Cancel} :
    decode .cancel payload = .ok m ↔ payload = encode .cancel m :=
  wrapped_word_ok_iff (fun _ => rfl) fun _ => rfl

/-- **The announcement of data** has one payload. -/
theorem decode_startData_ok_iff {payload : Bytes} {m : StartData} :
    decode .startData payload = .ok m ↔ payload = encode .startData m := by
  have hreads : Decoder.Reads (do pure (⟨← Decoder.uint32, ← Decoder.uint64⟩ : StartData))
      fun m bytes => bytes = encode .startData m := by
    refine (Decoder.reads_uint32.bind fun id => Decoder.reads_uint64.bind fun total =>
      Decoder.reads_pure (⟨id, total⟩ : StartData)).congr fun m bytes => ?_
    constructor
    · intro hspelt
      obtain ⟨id, _, _, rfl, ⟨total, _, _, rfl, ⟨rfl, rfl⟩, rfl⟩, rfl⟩ := hspelt
      simp [encode]
    · intro hspelt
      subst hspelt
      exact ⟨m.transactionId, _, _, rfl, ⟨m.totalLength, _, _, rfl, ⟨rfl, rfl⟩, rfl⟩, by
        simp [encode]⟩
  simp only [decode, except_bind_ok_iff, exactLength_ok_iff, Prod.exists, fields_ok_iff hreads,
    except_pure_ok_iff]
  constructor
  · intro hspelt
    obtain ⟨_, hlength, body, rest, ⟨bytes, rfl, rfl⟩, rfl⟩ := hspelt
    have hrest : rest = [] := by
      apply List.eq_nil_of_length_eq_zero
      simp only [encode, List.length_append, length_encodeUInt32, length_encodeUInt64] at hlength
      omega
    rw [hrest, List.append_nil]
  · intro hspelt
    subst hspelt
    exact ⟨(), by simp [encode], m, [], ⟨_, rfl, by simp⟩, rfl⟩

/-- **A piece of data** has one payload, the last piece too. -/
theorem decode_data_ok_iff {payload : Bytes} {m : DataChunk} :
    decode .data payload = .ok m ↔ payload = encode .data m :=
  chunk_ok_iff

theorem decode_endData_ok_iff {payload : Bytes} {m : DataChunk} :
    decode .endData payload = .ok m ↔ payload = encode .endData m :=
  chunk_ok_iff

/-- What responses and events begin with. -/
theorem reads_numbered : Decoder.Reads (do pure (← Decoder.uint16, ← Decoder.uint32))
    fun (m : UInt16 × UInt32) bytes => bytes = encodeUInt16 m.1 ++ encodeUInt32 m.2 := by
  refine (Decoder.reads_uint16.bind fun code => Decoder.reads_uint32.bind fun id =>
    Decoder.reads_pure (code, id)).congr fun m bytes => ?_
  constructor
  · intro hspelt
    obtain ⟨code, _, _, rfl, ⟨id, _, _, rfl, ⟨rfl, rfl⟩, rfl⟩, rfl⟩ := hspelt
    simp
  · intro hspelt
    subst hspelt
    exact ⟨m.1, _, _, rfl, ⟨m.2, _, _, rfl, ⟨rfl, rfl⟩, rfl⟩, by simp⟩

/-- What requests begin with. -/
theorem reads_requested :
    Decoder.Reads (do pure (← Decoder.uint32, ← Decoder.uint16, ← Decoder.uint32))
      fun (m : UInt32 × UInt16 × UInt32) bytes =>
        bytes = encodeUInt32 m.1 ++ encodeUInt16 m.2.1 ++ encodeUInt32 m.2.2 := by
  refine (Decoder.reads_uint32.bind fun flow => Decoder.reads_uint16.bind fun code =>
    Decoder.reads_uint32.bind fun id => Decoder.reads_pure (flow, code, id)).congr
    fun m bytes => ?_
  constructor
  · intro hspelt
    obtain ⟨flow, _, _, rfl, ⟨code, _, _, rfl, ⟨id, _, _, rfl, ⟨rfl, rfl⟩, rfl⟩, rfl⟩, rfl⟩ :=
      hspelt
    simp
  · intro hspelt
    subst hspelt
    exact ⟨m.1, _, _, rfl, ⟨m.2.1, _, _, rfl, ⟨m.2.2, _, _, rfl, ⟨rfl, rfl⟩, rfl⟩, rfl⟩, by simp⟩

/-- **A request** has one payload. -/
theorem decode_operationRequest_ok_iff {payload : Bytes} {m : OperationRequest} :
    decode .operationRequest payload = .ok m ↔ payload = encode .operationRequest m := by
  simp only [decode, except_bind_ok_iff, leastLength_ok_iff, Prod.exists,
    fields_ok_iff reads_requested, Params.ofBytes_ok_iff, except_pure_ok_iff]
  constructor
  · intro hspelt
    obtain ⟨_, _, flow, code, id, tail, ⟨bytes, rfl, rfl⟩, params, rfl, rfl⟩ := hspelt
    rfl
  · intro hspelt
    subst hspelt
    exact ⟨(), by simp [encode]; omega, m.flow.code, m.code.value, m.transactionId,
      m.params.toBytes, ⟨_, rfl, rfl⟩, m.params, rfl, rfl⟩

/-- **A response** has one payload. -/
theorem decode_operationResponse_ok_iff {payload : Bytes} {m : OperationResponse} :
    decode .operationResponse payload = .ok m ↔ payload = encode .operationResponse m := by
  simp only [decode, except_bind_ok_iff, leastLength_ok_iff, Prod.exists,
    fields_ok_iff reads_numbered, Params.ofBytes_ok_iff, except_pure_ok_iff]
  constructor
  · intro hspelt
    obtain ⟨_, _, code, id, tail, ⟨bytes, rfl, rfl⟩, params, rfl, rfl⟩ := hspelt
    rfl
  · intro hspelt
    subst hspelt
    exact ⟨(), by simp [encode]; omega, m.code.value, m.transactionId, m.params.toBytes,
      ⟨_, rfl, rfl⟩, m.params, rfl, rfl⟩

/-- **An event** has one payload. -/
theorem decode_event_ok_iff {payload : Bytes} {m : EventNotice} :
    decode .event payload = .ok m ↔ payload = encode .event m := by
  simp only [decode, except_bind_ok_iff, leastLength_ok_iff, Prod.exists,
    fields_ok_iff reads_numbered, Params.ofBytes_ok_iff, except_pure_ok_iff]
  constructor
  · intro hspelt
    obtain ⟨_, _, code, id, tail, ⟨bytes, rfl, rfl⟩, params, rfl, rfl⟩ := hspelt
    rfl
  · intro hspelt
    subst hspelt
    exact ⟨(), by simp [encode]; omega, m.code.value, m.transactionId, m.params.toBytes,
      ⟨_, rfl, rfl⟩, m.params, rfl, rfl⟩

/-- **A probe** carries nothing, nor does the answer to it. -/
theorem decode_probeRequest_ok_iff {payload : Bytes} {u : Unit} :
    decode .probeRequest payload = .ok u ↔ payload = encode .probeRequest u := by
  simp only [decode, exactLength_ok_iff, encode, List.length_eq_zero_iff]

theorem decode_probeResponse_ok_iff {payload : Bytes} {u : Unit} :
    decode .probeResponse payload = .ok u ↔ payload = encode .probeResponse u := by
  simp only [decode, exactLength_ok_iff, encode, List.length_eq_zero_iff]

end Body

end PictureTransfer
