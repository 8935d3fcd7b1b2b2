import PictureTransfer.Link.Line

/-!
# Packets on a stream

A packet is told from what follows it by the length in its header.  So reading
takes a packet just when the bytes of one stand at the front of the source, and
then those bytes and no others: `Packet.read_ok_iff`, and `Line.receive_ok_iff`
for a line.
-/

namespace PictureTransfer

/-- A number names a kind just when it is the number of the kind. -/
theorem PacketKind.ofCode?_eq_some_iff {code : Nat} {kind : PacketKind} :
    ofCode? code = some kind ↔ kind.code = code := by
  constructor
  · intro h
    simpa using List.find?_some h
  · intro hsplit
    subst hsplit
    exact ofCode?_code kind

namespace Packet

/-- The bytes of a header at the front of a byte string, read back. -/
theorem announced_toBytes_append {p : Packet} (hfits : p.Fits) (rest : Bytes) :
    announced (p.toBytes ++ rest) = p.wireLength ∧
      announcedKind (p.toBytes ++ rest) = p.kind.code := by
  have hbytes : p.toBytes ++ rest = LittleEndian.encode 4 p.wireLength ++
      (LittleEndian.encode 4 p.kind.code ++ (p.payload ++ rest)) := by
    simp [toBytes, header]
  have hcode : p.kind.code < LittleEndian.span 4 := by
    have := p.kind.code_lt
    have : (15 : Nat) ≤ LittleEndian.span 4 := by decide
    omega
  have htake : ((p.toBytes ++ rest).take 8).drop 4 = LittleEndian.encode 4 p.kind.code := by
    rw [List.drop_take, hbytes, List.drop_left' (LittleEndian.length_encode ..),
      List.take_left' (LittleEndian.length_encode ..)]
  constructor
  · rw [announced, hbytes, List.take_left' (LittleEndian.length_encode ..)]
    exact LittleEndian.decode_encode_of_lt hfits
  · rw [announcedKind, htake]
    exact LittleEndian.decode_encode_of_lt hcode

/-- The packet that a byte string begins with takes up the bytes that its
header announces. -/
theorem toBytes_of_announced {bytes : Bytes} {kind : PacketKind}
    (hheader : 8 ≤ announced bytes) (hthere : announced bytes ≤ bytes.length)
    (hkind : kind.code = announcedKind bytes) :
    toBytes ⟨kind, (bytes.drop 8).take (announced bytes - 8)⟩ = bytes.take (announced bytes) := by
  have hlength : wireLength ⟨kind, (bytes.drop 8).take (announced bytes - 8)⟩ =
      announced bytes := by
    simp only [wireLength, headerLength, List.length_take, List.length_drop]
    omega
  have hfour : (bytes.take 4).length = 4 := by rw [List.length_take]; omega
  have hnext : ((bytes.take 8).drop 4).length = 4 := by
    simp only [List.length_drop, List.length_take]
    omega
  have hfirst : LittleEndian.encode 4 (announced bytes) = bytes.take 4 := by
    have := LittleEndian.encode_decode (bytes.take 4)
    rwa [hfour] at this
  have hsecond : LittleEndian.encode 4 (announcedKind bytes) = (bytes.take 8).drop 4 := by
    have := LittleEndian.encode_decode ((bytes.take 8).drop 4)
    rwa [hnext] at this
  have height : bytes.take 4 ++ (bytes.take 8).drop 4 = bytes.take 8 := by
    have := List.take_append_drop 4 (bytes.take 8)
    rwa [List.take_take] at this
  calc toBytes ⟨kind, (bytes.drop 8).take (announced bytes - 8)⟩
      = bytes.take 4 ++ (bytes.take 8).drop 4 ++ (bytes.drop 8).take (announced bytes - 8) := by
        simp only [toBytes, header, hlength, hkind, hfirst, hsecond]
    _ = bytes.take 8 ++ (bytes.drop 8).take (announced bytes - 8) := by rw [height]
    _ = bytes.take (8 + (announced bytes - 8)) := List.take_add.symm
    _ = bytes.take (announced bytes) := by rw [Nat.add_sub_cancel' hheader]

theorem announced_lt (bytes : Bytes) : announced bytes < UInt32.size := by
  have hle : (bytes.take 4).length ≤ 4 := by
    rw [List.length_take]
    omega
  exact Nat.lt_of_lt_of_le (LittleEndian.decode_lt _) (LittleEndian.span_mono hle)

/-- **Reading takes exactly one packet.**  A packet is read just when its bytes
stand at the front of the source, and what stands behind them is left. -/
theorem read_ok_iff {s s' : Source} {p : Packet} :
    read s = .ok p s' ↔
      p.Fits ∧ ∃ rest, s.queued = p.toBytes ++ rest ∧ s' = { s with queued := rest } := by
  rw [read_eq]
  constructor
  · intro h
    split at h
    · simp at h
    split at h
    · simp at h
    split at h
    · simp at h
    rename_i hheader hthere
    split at h
    · rename_i kind hkind
      simp only [EStateM.Result.ok.injEq] at h
      obtain ⟨rfl, rfl⟩ := h
      have hbytes := toBytes_of_announced (Nat.le_of_not_lt hheader) (Nat.le_of_not_lt hthere)
        (PacketKind.ofCode?_eq_some_iff.mp hkind)
      have hlength := congrArg List.length hbytes
      rw [length_toBytes, List.length_take, Nat.min_eq_left (Nat.le_of_not_lt hthere)] at hlength
      refine ⟨?_, s.queued.drop (announced s.queued), ?_, rfl⟩
      · rw [Fits, hlength]
        exact announced_lt s.queued
      · rw [hbytes, List.take_append_drop]
    · simp at h
  · intro hsplit
    obtain ⟨hfits, rest, hqueued, rfl⟩ := hsplit
    obtain ⟨hlength, hkind⟩ := announced_toBytes_append hfits rest
    rw [← hqueued] at hlength hkind
    have hwire : p.wireLength = 8 + p.payload.length := rfl
    have htotal : s.queued.length = p.wireLength + rest.length := by simp [hqueued]
    have hpayload : (s.queued.drop 8).take (announced s.queued - 8) = p.payload := by
      have hbytes : s.queued = p.header ++ (p.payload ++ rest) := by
        rw [hqueued, toBytes, List.append_assoc]
      have hdrop : (p.header ++ (p.payload ++ rest)).drop 8 = p.payload ++ rest :=
        List.drop_left' p.length_header
      rw [hlength, hwire, Nat.add_sub_cancel_left, hbytes, hdrop, List.take_left]
    have hrest : s.queued.drop (announced s.queued) = rest := by
      rw [hlength, hqueued, List.drop_left' p.length_toBytes]
    have hcode : PacketKind.ofCode? (announcedKind s.queued) = some p.kind := by
      rw [hkind, PacketKind.ofCode?_code]
    rw [if_neg (by omega), if_neg (by omega), if_neg (by omega), hcode]
    simp only [hpayload, past, hrest]

end Packet

/-- A packet is received just when it stands at the front of the line, which is
otherwise left as it is. -/
theorem Line.receive_ok_iff {line line' : Line} {p : Packet} :
    receive line = .ok p line' ↔
      p.Fits ∧ ∃ rest, line.incoming.queued = p.toBytes ++ rest ∧
        line' = { line with incoming.queued := rest } := by
  unfold receive
  constructor
  · intro h
    cases hread : Packet.read line.incoming with
    | error e source => simp [hread] at h
    | ok q source =>
        simp only [hread, EStateM.Result.ok.injEq] at h
        obtain ⟨rfl, rfl⟩ := h
        obtain ⟨hfits, rest, hqueued, rfl⟩ := Packet.read_ok_iff.mp hread
        exact ⟨hfits, rest, hqueued, rfl⟩
  · intro h
    obtain ⟨hfits, rest, hqueued, rfl⟩ := h
    have hread := Packet.read_ok_iff.mpr ⟨hfits, rest, hqueued, rfl⟩
    simp [hread]

end PictureTransfer
