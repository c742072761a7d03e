import Courier.Proofs.Frame.Chunks
import Courier.Proofs.Frame.History

/-!
# One maximum at both ends

The sender counts a content before it writes the length, the receiver reads the length before
it waits for the content, and it holds no more than one frame. A content passes the one
just if it passes the other, wherever the frame is cut on its way. One that is too large
is known to be so from its length alone.
-/

namespace Courier

namespace Frame

theorem exists_encode_iff {max : Nat} {payload : ByteArray} :
    (∃ frame, encode max payload = .ok frame) ↔ payload.size ≤ min max maxDeclared := by
  rw [Nat.le_min]
  constructor
  · rintro ⟨frame, h⟩
    obtain ⟨hm, hd, -⟩ := encode_eq_ok_iff.mp h
    exact ⟨hm, hd⟩
  · rintro ⟨hm, hd⟩
    exact ⟨_, encode_eq_ok hm hd⟩

theorem header_of_encode {max : Nat} {payload frame : ByteArray}
    (h : encode max payload = .ok frame) :
    payload.size ≤ maxDeclared ∧ (octets frame).take headerSize = bigEndian headerSize payload.size ∧
      (octets frame).drop headerSize = octets payload := by
  obtain ⟨-, hd, hframe⟩ := encode_eq_ok_iff.mp h
  have htake := take_onWire_append (octets payload) []
  have hdrop := drop_onWire_append (octets payload) []
  rw [List.append_nil, ← hframe] at htake hdrop
  rw [length_octets] at htake
  rw [List.append_nil] at hdrop
  exact ⟨hd, htake, hdrop⟩

theorem split_of_header {max n : Nat} (rest : List UInt8) (hd : n ≤ maxDeclared) (h : max < n) :
    split max (bigEndian headerSize n ++ rest) = ⟨[], .tooLarge n⟩ := by
  have htake : (bigEndian headerSize n ++ rest).take headerSize = bigEndian headerSize n :=
    List.take_left' (length_bigEndian _ _)
  have hlong : headerSize ≤ (bigEndian headerSize n ++ rest).length := by
    rw [List.length_append, length_bigEndian]
    exact Nat.le_add_right _ _
  have hdeclared : ofBigEndian ((bigEndian headerSize n ++ rest).take headerSize) = n := by
    rw [htake, ofBigEndian_header hd]
  rw [split_of_lt_declared hlong (by rwa [hdeclared]), hdeclared]

end Frame

namespace Accumulator

variable (a : Accumulator) {max : Nat} {payload chunk : ByteArray} {chunks : List ByteArray}

theorem pop_of_split_eq_tooLarge {n : Nat}
    (h : Frame.split a.maxFrame (octets a.buffer) = ⟨[], .tooLarge n⟩) :
    a.pop = (.error (.frameTooLarge n a.maxFrame), a) := by
  have hp := a.popped
  generalize a.pop = r at hp
  cases hp with
  | waiting h' =>
    rw [h'] at h
    cases h
  | tooLarge m h' =>
    rw [h'] at h
    cases h
    rfl
  | frame content rest hm hd h' =>
    rw [h', Frame.split_onWire_append _ (by simpa using hm) (by simpa using hd)] at h
    cases h

/-! ## Chunks that fit -/

theorem feedAll_of_overflow (h : a.limit < a.size + chunk.size) :
    a.feedAll chunk = ⟨[], some (.bufferOverflow a.size chunk.size a.limit), a⟩ := by
  unfold feedAll
  rw [feed_eq, if_pos h]

theorem fits_of_length_le (h : a.size + (chunks.flatMap octets).length ≤ a.limit) :
    a.Fits chunks := by
  induction chunks generalizing a with
  | nil => trivial
  | cons chunk chunks ih =>
    rw [List.flatMap_cons, List.length_append, length_octets] at h
    have hle : a.size + chunk.size ≤ a.limit := by omega
    obtain ⟨-, -, -, -, hmax, hsize⟩ := popAll_spec { a with buffer := a.buffer ++ chunk }
    rw [← a.feedAll_eq hle] at hmax hsize
    refine ⟨by unfold room; omega, ih _ ?_⟩
    simp only [size, limit, ByteArray.size_append] at h hmax hsize ⊢
    omega

theorem fits_of_error_eq_none (h : (a.takeIn chunks).error = none) : a.Fits chunks := by
  induction chunks generalizing a with
  | nil => trivial
  | cons chunk chunks ih =>
    obtain ⟨hfirst, hlater⟩ := Option.or_eq_none_iff.mp h
    refine ⟨?_, ih _ hlater⟩
    by_contra hroom
    rw [a.feedAll_of_overflow (by unfold room at hroom; omega)] at hfirst
    cases hfirst

/-! ## A frame in chunks -/

theorem takeIn_of_short (h : (chunks.flatMap octets).length < Frame.headerSize) :
    (empty max).takeIn chunks = ⟨[], none, ⟨max, packed (chunks.flatMap octets)⟩⟩ := by
  have hfit : (empty max).Fits chunks := by
    apply fits_of_length_le
    change 0 + _ ≤ max + Frame.headerSize
    omega
  have hsplit : Frame.split max (chunks.flatMap octets) = ⟨[], .rest (chunks.flatMap octets)⟩ :=
    Frame.split_of_length_lt h
  obtain ⟨hframes, herror, -, hmax⟩ := takeIn_empty hfit
  rw [hsplit] at hframes herror
  have hleft := takeIn_left hfit herror
  rw [hsplit, Frame.Tail.rest.injEq] at hleft
  refine Yield.ext (List.map_eq_nil_iff.mp hframes) herror (Accumulator.ext hmax ?_)
  rw [hleft, packed_octets]

/-- A content can be framed just if an accumulator with the same maximum gets it out of the chunks
in which its frame comes. -/
theorem exists_encode_iff_takeIn (hd : payload.size ≤ Frame.maxDeclared)
    (hbytes : chunks.flatMap octets = Frame.onWire (octets payload)) :
    (∃ frame, Frame.encode max payload = .ok frame) ↔
      (empty max).takeIn chunks = ⟨[payload], none, empty max⟩ := by
  rw [Frame.exists_encode_iff, Nat.le_min]
  constructor
  · rintro ⟨hm, -⟩
    have hfit : (empty max).Fits chunks := by
      apply fits_of_length_le
      rw [hbytes, Frame.length_onWire, length_octets]
      change 0 + _ ≤ max + Frame.headerSize
      omega
    refine takeIn_encodings (.cons (Frame.encode_eq_ok hm hd) .nil) hfit ?_
    rw [hbytes]
    simp [Frame.onWire]
  · intro h
    refine ⟨Nat.le_of_not_lt fun hlarge => ?_, hd⟩
    -- the splitter finds no frame in the stream, so none has been taken out
    have hfit : (empty max).Fits chunks := fits_of_error_eq_none _ (by rw [h])
    obtain ⟨hframes, -⟩ := takeIn_empty hfit
    rw [h, hbytes, Frame.onWire, length_octets, Frame.split_of_header _ hd hlarge] at hframes
    cases hframes

/-- The chunk with the last byte of a length that is too large is answered with the error, and
no more than the length is held then. -/
theorem feed_of_tooLarge {n : Nat} (hm : max < n) (hd : n ≤ Frame.maxDeclared)
    (hlast : 0 < chunk.size)
    (hbytes : (chunks ++ [chunk]).flatMap octets = bigEndian Frame.headerSize n) :
    (empty max).takeIn chunks = ⟨[], none, ⟨max, packed (chunks.flatMap octets)⟩⟩ ∧
      ((empty max).takeIn chunks).left.feed chunk =
        (.error (.frameTooLarge n max), ⟨max, packed (bigEndian Frame.headerSize n)⟩) := by
  have hjoin : chunks.flatMap octets ++ octets chunk = bigEndian Frame.headerSize n := by
    rw [← hbytes, List.flatMap_append, List.flatMap_singleton]
  have hlen : (chunks.flatMap octets).length + chunk.size = Frame.headerSize := by
    rw [← length_octets chunk, ← List.length_append, hjoin, length_bigEndian]
  have hshort : (empty max).takeIn chunks = _ := takeIn_of_short (by omega)
  have hheld : packed (chunks.flatMap octets) ++ chunk = packed (bigEndian Frame.headerSize n) := by
    rw [← octets_inj, octets_append, octets_packed, octets_packed, hjoin]
  have hroom : ¬ max + Frame.headerSize < (packed (chunks.flatMap octets)).size + chunk.size := by
    rw [size_packed]
    omega
  refine ⟨hshort, ?_⟩
  rw [hshort, feed_eq, limit, size, if_neg hroom]
  dsimp only
  rw [hheld]
  refine pop_of_split_eq_tooLarge _ ?_
  have hsplit := Frame.split_of_header [] hd hm
  rwa [List.append_nil, ← octets_packed (bigEndian Frame.headerSize n)] at hsplit

/-- The two ends admit the same. A content can be framed just if it is within the maximum and its
size is below 2³², and then its size is what the four bytes in front of it say. If its size
can be written there at all, it can be framed just if an accumulator with this maximum hands
it on, and nothing else, from the chunks in which its frame comes, however it is cut, and is
empty then. A content above the maximum is refused with the fourth byte of its length, when
these four bytes are all that is held. -/
theorem one_maximum (max : Nat) (payload : ByteArray) :
    ((∃ frame, Frame.encode max payload = .ok frame) ↔ payload.size ≤ min max (2 ^ 32 - 1)) ∧
    (∀ frame, Frame.encode max payload = .ok frame →
      ((octets frame).take 4).length = 4 ∧ ofBigEndian ((octets frame).take 4) = payload.size ∧
        (octets frame).drop 4 = octets payload) ∧
    (payload.size < 2 ^ 32 →
      (∀ chunks, chunks.flatMap octets = bigEndian 4 payload.size ++ octets payload →
        ((∃ frame, Frame.encode max payload = .ok frame) ↔
          (empty max).takeIn chunks = ⟨[payload], none, empty max⟩)) ∧
      ∀ chunks chunk, max < payload.size → 0 < chunk.size →
        (chunks ++ [chunk]).flatMap octets = bigEndian 4 payload.size →
        (empty max).takeIn chunks = ⟨[], none, ⟨max, packed (chunks.flatMap octets)⟩⟩ ∧
          ((empty max).takeIn chunks).left.feed chunk =
            (.error (.frameTooLarge payload.size max),
              ⟨max, packed (bigEndian 4 payload.size)⟩)) := by
  refine ⟨Frame.exists_encode_iff, fun frame h => ?_, fun hsize => ⟨fun chunks hbytes => ?_,
    fun chunks chunk hlarge hlast hbytes => ?_⟩⟩
  · obtain ⟨hd, htake, hdrop⟩ := Frame.header_of_encode h
    change (octets frame).take 4 = _ at htake
    rw [htake]
    exact ⟨length_bigEndian _ _, Frame.ofBigEndian_header hd, hdrop⟩
  · exact exists_encode_iff_takeIn (Nat.le_of_lt_succ hsize) (by rw [hbytes]; rfl)
  · exact feed_of_tooLarge hlarge (Nat.le_of_lt_succ hsize) hlast hbytes

/-- Three bytes are admitted and read in pieces, and four are not. -/
theorem one_maximum_small :
    ((octets (packed [0, 0, 0, 3, 7, 8, 9])).take 4).length = 4 ∧
    (empty 3).takeIn [packed [0, 0], packed [], packed [0, 3, 7], packed [8, 9]] =
      ⟨[packed [7, 8, 9]], none, empty 3⟩ ∧
    (¬ ∃ frame, Frame.encode 3 (packed [7, 8, 9, 1]) = .ok frame) ∧
    ((empty 3).takeIn [packed [0, 0], packed [0]]).left.feed (packed [4]) =
      (.error (.frameTooLarge 4 3), ⟨3, packed [0, 0, 0, 4]⟩) := by
  have hframe : Frame.encode 3 (packed [7, 8, 9]) = .ok (packed [0, 0, 0, 3, 7, 8, 9]) := by cbv
  obtain ⟨-, hheader, hsame⟩ := one_maximum 3 (packed [7, 8, 9])
  obtain ⟨hbound, -, hpieces⟩ := one_maximum 3 (packed [7, 8, 9, 1])
  obtain ⟨-, hlarge⟩ := hpieces (by decide)
  refine ⟨(hheader _ hframe).1, ?_, ?_, ?_⟩
  · exact ((hsame (by decide)).1 _ (by cbv)).mp ⟨_, hframe⟩
  · rw [hbound]
    decide
  · exact (hlarge [packed [0, 0], packed [0]] (packed [4]) (by decide) (by decide) (by cbv)).2

end Accumulator
end Courier
