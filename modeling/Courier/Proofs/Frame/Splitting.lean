import Courier.Proofs.Bytes
import Courier.Frame.Splitter

/-!
# What a stream of frames says

The bytes that a content travels as begin with its length, so no frame is the
start of another and a stream can be cut in one way only. `Frame.split` finds
that way: it takes off the frames that were put in front of a stream and leaves
the rest to be read as if it stood alone.
-/

namespace Courier.Frame

/-- The bytes that a content travels as. -/
def onWire (content : List UInt8) : List UInt8 :=
  bigEndian headerSize content.length ++ content

@[simp] theorem length_onWire (content : List UInt8) :
    (onWire content).length = headerSize + content.length := by
  simp [onWire]

theorem encode_eq_ok_iff {max : Nat} {payload frame : ByteArray} :
    encode max payload = .ok frame ↔
      payload.size ≤ max ∧ payload.size ≤ maxDeclared ∧ octets frame = onWire (octets payload) := by
  constructor
  · intro h
    unfold encode at h
    split at h
    · cases h
    · split at h
      · cases h
      · cases h
        exact ⟨by omega, by omega, by simp [onWire]⟩
  · rintro ⟨hm, hd, hf⟩
    rw [encode_eq_ok hm hd, Except.ok.injEq, ← octets_inj, hf]
    simp [onWire]

theorem take_onWire_append (content rest : List UInt8) :
    (onWire content ++ rest).take headerSize = bigEndian headerSize content.length := by
  simp [onWire]

theorem drop_onWire_append (content rest : List UInt8) :
    (onWire content ++ rest).drop headerSize = content ++ rest := by
  simp [onWire]

theorem ofBigEndian_header {n : Nat} (h : n ≤ maxDeclared) :
    ofBigEndian (bigEndian headerSize n) = n :=
  ofBigEndian_bigEndian (Nat.lt_succ_of_le h)

theorem onWire_append_inj {c d x y : List UInt8} (hc : c.length ≤ maxDeclared)
    (hd : d.length ≤ maxDeclared) (h : onWire c ++ x = onWire d ++ y) : c = d ∧ x = y := by
  have hlen : c.length = d.length := by
    have htake := congrArg (fun l => ofBigEndian (l.take headerSize)) h
    simpa only [take_onWire_append, ofBigEndian_header hc, ofBigEndian_header hd] using htake
  have hbody := congrArg (List.drop headerSize) h
  rw [drop_onWire_append, drop_onWire_append] at hbody
  exact List.append_inj hbody hlen

theorem not_onWire_prefix_part {c d part : List UInt8} (hc : c.length ≤ maxDeclared)
    (hd : d.length ≤ maxDeclared) (hp : part <+: onWire c)
    (hlt : part.length < (onWire c).length) : ¬ onWire d <+: part := by
  rintro ⟨x, rfl⟩
  obtain ⟨y, hy⟩ := hp
  rw [List.append_assoc] at hy
  have hcut : onWire d ++ (x ++ y) = onWire c ++ [] := by rw [hy, List.append_nil]
  obtain ⟨rfl, _⟩ := onWire_append_inj hd hc hcut
  rw [List.length_append] at hlt
  omega

/-- The beginning of a frame with a content of at most some size, and not all of
it. -/
def Begun (max : Nat) (part : List UInt8) : Prop :=
  ∃ content : List UInt8, content.length ≤ max ∧
    part <+: onWire content ∧ part.length < (onWire content).length

theorem begun_nil (max : Nat) : Begun max [] :=
  ⟨[], Nat.zero_le _, List.nil_prefix, by simp [headerSize]⟩

theorem Begun.mono {max max' : Nat} {part : List UInt8} (h : Begun max part) (hle : max ≤ max') :
    Begun max' part := by
  obtain ⟨content, hsize, hpart⟩ := h
  exact ⟨content, Nat.le_trans hsize hle, hpart⟩

/-- Frames at the front of a stream are among those that were put there, in
their order; what is there of a further frame counts for nothing. -/
theorem prefix_of_flatMap_onWire {cs ds : List (List UInt8)} {x part : List UInt8}
    (hc : ∀ c ∈ cs, c.length ≤ maxDeclared) (hd : ∀ d ∈ ds, d.length ≤ maxDeclared)
    (hpart : Begun maxDeclared part)
    (h : cs.flatMap onWire ++ x <+: ds.flatMap onWire ++ part) : cs <+: ds := by
  induction cs generalizing ds with
  | nil => exact List.nil_prefix
  | cons c cs ih =>
    have hlen := hc c List.mem_cons_self
    cases ds with
    | nil =>
      simp only [List.flatMap_cons, List.flatMap_nil, List.nil_append, List.append_assoc] at h
      have hfront : onWire c <+: part := (List.prefix_append _ _).trans h
      obtain ⟨last, hl, hp, hlt⟩ := hpart
      exact absurd hfront (not_onWire_prefix_part hl hlen hp hlt)
    | cons d ds =>
      obtain ⟨t, ht⟩ := h
      simp only [List.flatMap_cons, List.append_assoc] at ht
      obtain ⟨rfl, hrest⟩ := onWire_append_inj hlen (hd d List.mem_cons_self) ht
      have hds : cs <+: ds :=
        ih (fun c h => hc c (List.mem_cons_of_mem _ h)) (fun d h => hd d (List.mem_cons_of_mem _ h))
          ⟨t, by rw [List.append_assoc, hrest]⟩
      exact (List.prefix_cons_inj c).mpr hds

/-! ## The reference splitter -/

variable {max : Nat}

theorem split_of_length_lt {stream : List UInt8} (h : stream.length < headerSize) :
    split max stream = ⟨[], .rest stream⟩ := by
  rw [split, if_pos h]

theorem split_of_lt_declared {stream : List UInt8} (h : headerSize ≤ stream.length)
    (hm : max < ofBigEndian (stream.take headerSize)) :
    split max stream = ⟨[], .tooLarge (ofBigEndian (stream.take headerSize))⟩ := by
  rw [split, if_neg (Nat.not_lt.mpr h)]
  exact if_pos hm

theorem split_of_incomplete {stream : List UInt8}
    (hm : ofBigEndian (stream.take headerSize) ≤ max)
    (h : stream.length < headerSize + ofBigEndian (stream.take headerSize)) :
    split max stream = ⟨[], .rest stream⟩ := by
  by_cases hs : stream.length < headerSize
  · exact split_of_length_lt hs
  · rw [split, if_neg hs]
    dsimp only
    rw [if_neg (Nat.not_lt.mpr hm), if_pos h]

theorem split_onWire_append {content : List UInt8} (rest : List UInt8)
    (hm : content.length ≤ max) (hd : content.length ≤ maxDeclared) :
    split max (onWire content ++ rest) =
      ⟨content :: (split max rest).frames, (split max rest).tail⟩ := by
  have hsize : ofBigEndian ((onWire content ++ rest).take headerSize) = content.length := by
    rw [take_onWire_append, ofBigEndian_header hd]
  have hdrop : (onWire content ++ rest).drop (headerSize + content.length) = rest := by
    rw [← length_onWire, List.drop_left]
  rw [split, if_neg (by simp; omega)]
  simp only [hsize, hdrop]
  rw [if_neg (by omega), if_neg (by simp), drop_onWire_append, List.take_left]

theorem Begun.split_eq {part : List UInt8} (h : Begun max part)
    (hmax : max ≤ maxDeclared) : split max part = ⟨[], .rest part⟩ := by
  obtain ⟨content, hsize, ⟨more, hmore⟩, hlt⟩ := h
  by_cases hs : part.length < headerSize
  · exact split_of_length_lt hs
  · have hdeclared : ofBigEndian (part.take headerSize) = content.length := by
      rw [← ofBigEndian_header (Nat.le_trans hsize hmax), ← take_onWire_append content [],
        List.append_nil, ← hmore, List.take_append_of_le_length (Nat.le_of_not_lt hs)]
    rw [length_onWire] at hlt
    exact split_of_incomplete (by rwa [hdeclared]) (by rwa [hdeclared])

theorem split_ne_tooLarge {content rest front : List UInt8} {n : Nat}
    (hm : content.length ≤ max) (hd : content.length ≤ maxDeclared)
    (h : front <+: onWire content ++ rest) : split max front ≠ ⟨[], .tooLarge n⟩ := by
  by_cases hs : front.length < headerSize
  · rw [split_of_length_lt hs]
    simp
  · obtain ⟨back, hback⟩ := h
    have hsize : ofBigEndian (front.take headerSize) = content.length := by
      rw [← ofBigEndian_header hd, ← take_onWire_append content rest, ← hback,
        List.take_append_of_le_length (Nat.le_of_not_lt hs)]
    by_cases hall : front.length < headerSize + content.length
    · rw [split_of_incomplete (by rw [hsize]; exact hm) (by rw [hsize]; exact hall)]
      simp
    · have hfront : onWire content <+: front := by
        apply List.prefix_of_prefix_length_le (List.prefix_append _ rest) ⟨back, hback⟩
        rw [length_onWire]
        exact Nat.le_of_not_lt hall
      obtain ⟨more, rfl⟩ := hfront
      rw [split_onWire_append more hm hd]
      simp

/-- Frames in front of a stream are taken off it one by one. -/
theorem split_flatMap_onWire_append {contents : List (List UInt8)} (rest : List UInt8)
    (h : ∀ c ∈ contents, c.length ≤ max ∧ c.length ≤ maxDeclared) :
    split max (contents.flatMap onWire ++ rest) =
      ⟨contents ++ (split max rest).frames, (split max rest).tail⟩ := by
  induction contents with
  | nil => rfl
  | cons c cs ih =>
    obtain ⟨hm, hd⟩ := h c List.mem_cons_self
    rw [List.flatMap_cons, List.append_assoc, split_onWire_append _ hm hd,
      ih fun c h' => h c (List.mem_cons_of_mem _ h')]
    rfl

end Courier.Frame
