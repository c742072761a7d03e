import Courier.Link.Transfer
import Courier.Proofs.Frame.Collecting
import Courier.Proofs.Net.Effects

/-!
# How far a transfer gets

Writing a frame puts the whole of it on the stream or a part that is shorter,
and says which. Reading hands on a frame that the bytes held so far and the
bytes just read start with, or ends with bytes that no frame can be taken from,
and then all of them are held.
-/

namespace Courier.Link

variable {stream timeout deadline : Nat} {d : Direction} {net after : Network}

/-- What of a frame has been put on a stream when its writing ends. -/
inductive Transmitted (frame : List UInt8) : Call (Except Failure Unit) → List UInt8 → Prop
  | whole : Transmitted frame (.returned (.ok ())) frame
  | part {outcome : Call (Except Failure Unit)} {put : List UInt8}
      (ho : outcome ≠ .returned (.ok ())) (hp : put <+: frame) (hlt : put.length < frame.length) :
      Transmitted frame outcome put

/-- A part in front of a frame that is still to be written can be counted in. -/
theorem Transmitted.append (front : List UInt8) {back put : List UInt8}
    {outcome : Call (Except Failure Unit)}
    (h : Transmitted back outcome put) : Transmitted (front ++ back) outcome (front ++ put) := by
  cases h with
  | whole => exact .whole
  | part ho hp hlt =>
    apply Transmitted.part ho ((List.prefix_append_right_inj front).mpr hp)
    simp only [List.length_append]
    omega

theorem Transmitted.eq_ok_iff {frame put : List UInt8} {outcome : Call (Except Failure Unit)}
    (h : Transmitted frame outcome put) : outcome = .returned (.ok ()) ↔ put = frame := by
  cases h with
  | whole => simp
  | part ho hp hlt =>
    constructor
    · intro h
      exact absurd h ho
    · rintro rfl
      omega

/-- What writing does to the stream: it puts bytes on it. -/
structure Emits (stream : Nat) (d : Direction) (rest : ByteArray) (net : Network)
    (outcome : Call (Except Failure Unit)) (after : Network) : Prop where
  touches : net.Touches stream d after
  taken : (after.pipe stream d).taken = (net.pipe stream d).taken
  put : ∃ put, octets (after.pipe stream d).written = octets (net.pipe stream d).written ++ put ∧
    Transmitted (octets rest) outcome put

namespace Emits

variable {rest : ByteArray} {mid : Network} {outcome : Call (Except Failure Unit)}

theorem of_nothing (h : rest.size = 0) : Emits stream d rest net (.returned (.ok ())) net where
  touches := .refl _ _ _
  taken := rfl
  put := by
    have hnil : octets rest = [] := List.eq_nil_of_length_eq_zero h
    rw [hnil]
    exact ⟨[], by rw [List.append_nil], .whole⟩

theorem of_left (hsize : rest.size ≠ 0) (ho : outcome ≠ .returned (.ok ()))
    (ht : net.Touches stream d mid)
    (hw : (mid.pipe stream d).written = (net.pipe stream d).written)
    (hk : (mid.pipe stream d).taken = (net.pipe stream d).taken) :
    Emits stream d rest net outcome mid where
  touches := ht
  taken := hk
  put := by
    refine ⟨[], by rw [hw, List.append_nil], .part ho List.nil_prefix ?_⟩
    simpa using Nat.pos_of_ne_zero hsize

theorem of_vain (ht : net.Touches stream d mid)
    (hw : (mid.pipe stream d).written = (net.pipe stream d).written)
    (hk : (mid.pipe stream d).taken = (net.pipe stream d).taken)
    (h : Emits stream d rest mid outcome after) : Emits stream d rest net outcome after where
  touches := ht.trans h.touches
  taken := h.taken.trans hk
  put := by
    obtain ⟨put, hput, hdone⟩ := h.put
    exact ⟨put, by rw [hput, hw], hdone⟩

theorem of_accepted {n : Nat} (ht : net.Touches stream d mid)
    (hw : octets (mid.pipe stream d).written =
      octets (net.pipe stream d).written ++ (octets rest).take n)
    (hk : (mid.pipe stream d).taken = (net.pipe stream d).taken)
    (h : Emits stream d (rest.extract n rest.size) mid outcome after) :
    Emits stream d rest net outcome after where
  touches := ht.trans h.touches
  taken := h.taken.trans hk
  put := by
    obtain ⟨put, hput, hdone⟩ := h.put
    have hall : (octets rest).take rest.size = octets rest :=
      List.take_of_length_le (Nat.le_of_eq (length_octets _))
    have hcut : (octets rest).take n ++ octets (rest.extract n rest.size) = octets rest := by
      rw [octets_extract, hall, List.take_append_drop]
    have hmore := hdone.append ((octets rest).take n)
    rw [hcut] at hmore
    exact ⟨(octets rest).take n ++ put, by rw [hput, hw, List.append_assoc], hmore⟩

end Emits

theorem transmit_spec {rest : ByteArray} {outcome : Call (Except Failure Unit)}
    (h : transmit stream d timeout rest net = (outcome, after)) :
    Emits stream d rest net outcome after := by
  fun_induction transmit stream d timeout rest net with
  | case1 rest net hsize =>
    cases h
    exact .of_nothing hsize
  | case2 rest net hsize mid hwrite =>
    cases h
    have hpipe := Network.pipe_write_vain hwrite (by simp)
    exact .of_left hsize (by simp) (Network.touches_write hwrite) (by rw [hpipe]) (by rw [hpipe])
  | case3 rest net hsize mid hwrite =>
    cases h
    have hpipe := Network.pipe_write_vain hwrite (by simp)
    exact .of_left hsize (by simp) (Network.touches_write hwrite) (by rw [hpipe]) (by rw [hpipe])
  | case4 rest net hsize mid hwrite =>
    cases h
    obtain ⟨due, hp⟩ := net.write_came hwrite
    obtain ⟨-, hk, hw⟩ := Pipe.write_bytes hp
    rw [List.take_zero, List.append_nil, octets_inj] at hw
    exact .of_left hsize (by simp) (Network.touches_write hwrite) hw hk
  | case5 rest net hsize n mid hwrite hn ih =>
    obtain ⟨due, hp⟩ := net.write_came hwrite
    obtain ⟨-, hk, hw⟩ := Pipe.write_bytes hp
    exact .of_accepted (Network.touches_write hwrite) hw hk (ih h)
  | case6 rest net hsize e mid hwrite htrans ih =>
    obtain ⟨due, hp⟩ := net.write_came hwrite
    obtain ⟨hw, hk⟩ := Pipe.write_failed hp
    exact .of_vain (Network.touches_write hwrite) hw hk (ih h)
  | case7 rest net hsize e mid hwrite htrans =>
    cases h
    obtain ⟨due, hp⟩ := net.write_came hwrite
    obtain ⟨hw, hk⟩ := Pipe.write_failed hp
    exact .of_left hsize (by simp) (Network.touches_write hwrite) hw hk

/-- How reading ends without a frame and without an error in the frames. -/
inductive Idle : Call (Except Failure (Option ByteArray)) → Prop
  | late : Idle (.returned (.ok none))
  | abandoned : Idle .abandoned
  | closed : Idle (.returned (.error .connectionClosed))
  | failed (e : IoError) (h : e.isTransient = false) : Idle (.returned (.error (.io e)))

/-- What reading makes of the bytes held before and read since, and which of
them are held afterwards. -/
inductive Gathered (max : Nat) (bytes : List UInt8) :
    Call (Except Failure (Option ByteArray)) → List UInt8 → Prop
  | frame {content : ByteArray} {left : List UInt8} (hm : content.size ≤ max)
      (hd : content.size ≤ Frame.maxDeclared)
      (h : bytes = Frame.onWire (octets content) ++ left) :
      Gathered max bytes (.returned (.ok (some content))) left
  | tooLarge (n : Nat) (h : Frame.split max bytes = ⟨[], .tooLarge n⟩) :
      Gathered max bytes (.returned (.error (.frame (.frameTooLarge n max)))) bytes
  | idle {outcome : Call (Except Failure (Option ByteArray))} (hi : Idle outcome)
      (h : Frame.split max bytes = ⟨[], .rest bytes⟩) : Gathered max bytes outcome bytes

theorem eq_of_pop_none {a a' : Accumulator} (h : a.pop = (.ok none, a')) :
    a' = a ∧ Frame.split a.maxFrame (octets a.buffer) = ⟨[], .rest (octets a.buffer)⟩ := by
  have hp := a.popped
  rw [h] at hp
  cases hp with
  | waiting hsplit => exact ⟨rfl, hsplit⟩

theorem extend_of_pop_none {a a' : Accumulator} {b : ByteArray} (h : a.pop = (.ok none, a'))
    (hb : b.size ≤ want a') : a'.extend b = (.ok (), { a with buffer := a.buffer ++ b }) := by
  obtain ⟨rfl, -⟩ := eq_of_pop_none h
  have hroom := want_le_room (congrArg Prod.fst h)
  have hpos := a'.room_pos_of_pop_eq_none (congrArg Prod.fst h)
  apply a'.extend_eq_ok
  unfold Accumulator.room at hroom hpos
  omega

/-- What reading does: to the stream, from which bytes are taken, and to the bytes
held, which are never more than fit. -/
structure Collects (stream : Nat) (d : Direction) (a : Accumulator) (net : Network)
    (outcome : Call (Except Failure (Option ByteArray))) (a' : Accumulator) (after : Network) :
    Prop where
  touches : net.Touches stream d after
  written : (after.pipe stream d).written = (net.pipe stream d).written
  taken : (net.pipe stream d).taken ≤ (net.pipe stream d).written.size →
    (after.pipe stream d).taken ≤ (net.pipe stream d).written.size
  maxFrame : a'.maxFrame = a.maxFrame
  fits : a.size ≤ a.limit → a'.size ≤ a'.limit
  got : ∃ got, octets (after.pipe stream d).received = octets (net.pipe stream d).received ++ got ∧
    Gathered a.maxFrame (octets a.buffer ++ got) outcome (octets a'.buffer)

namespace Collects

variable {a a₁ a' : Accumulator} {mid : Network}
  {outcome : Call (Except Failure (Option ByteArray))}

theorem of_held (hmax : a'.maxFrame = a.maxFrame) (hfit : a'.size ≤ a.size)
    (hend : Gathered a.maxFrame (octets a.buffer) outcome (octets a'.buffer)) :
    Collects stream d a net outcome a' net where
  touches := .refl _ _ _
  written := rfl
  taken := id
  maxFrame := hmax
  fits h := by
    rw [Accumulator.limit, hmax]
    exact Nat.le_trans hfit h
  got := ⟨[], by rw [List.append_nil], by rwa [List.append_nil]⟩

theorem of_vain (hpop : a.pop = (.ok none, a₁)) (ht : net.Touches stream d mid)
    (hw : (mid.pipe stream d).written = (net.pipe stream d).written)
    (hk : (mid.pipe stream d).taken = (net.pipe stream d).taken)
    (h : Collects stream d a₁ mid outcome a' after) : Collects stream d a net outcome a' after where
  touches := ht.trans h.touches
  written := h.written.trans hw
  taken := by
    have htaken := h.taken
    rwa [hw, hk] at htaken
  maxFrame := by
    obtain ⟨rfl, -⟩ := eq_of_pop_none hpop
    exact h.maxFrame
  fits := by
    obtain ⟨rfl, -⟩ := eq_of_pop_none hpop
    exact h.fits
  got := by
    obtain ⟨rfl, -⟩ := eq_of_pop_none hpop
    obtain ⟨got, hgot, hend⟩ := h.got
    refine ⟨got, ?_, hend⟩
    rw [hgot, Pipe.received, hw, hk, Pipe.received]

theorem of_idle (hpop : a.pop = (.ok none, a₁)) (ht : net.Touches stream d mid)
    (hw : (mid.pipe stream d).written = (net.pipe stream d).written)
    (hk : (mid.pipe stream d).taken = (net.pipe stream d).taken) (hi : Idle outcome) :
    Collects stream d a net outcome a₁ mid := by
  apply of_vain hpop ht hw hk
  obtain ⟨rfl, hsplit⟩ := eq_of_pop_none hpop
  exact .of_held rfl (Nat.le_refl _) (.idle hi hsplit)

theorem of_bytes {a₂ : Accumulator} {b : ByteArray} (hpop : a.pop = (.ok none, a₁))
    (hread : net.read stream d (want a₁) deadline = (.came (.bytes b), mid))
    (hext : a₁.extend b = (.ok (), a₂)) (h : Collects stream d a₂ mid outcome a' after) :
    Collects stream d a net outcome a' after := by
  obtain ⟨due, hp⟩ := net.read_came hread
  obtain ⟨hw, -, hwithin, hle, -, hr⟩ := Pipe.read_bytes hp
  have hin := a₁.size_extend_le hext
  rw [extend_of_pop_none hpop hle] at hext
  cases hext
  obtain ⟨htouch, hw', htaken, hmax, hfit, got, hgot, hend⟩ := h
  refine ⟨(Network.touches_read hread).trans htouch, hw'.trans hw, ?_, hmax, ?_, octets b ++ got,
    ?_, ?_⟩
  · intro _
    rw [hw] at htaken
    exact htaken hwithin
  · intro _
    exact hfit hin
  · rw [hgot, hr, List.append_assoc]
  · simpa only [octets_append, List.append_assoc] using hend

end Collects

theorem gather_spec {a a' : Accumulator} {outcome : Call (Except Failure (Option ByteArray))}
    (h : gather stream d deadline a net = (outcome, a', after)) :
    Collects stream d a net outcome a' after := by
  fun_induction gather stream d deadline a net with
  | case1 a net e a₁ hpop =>
    cases h
    have hp := a.popped
    rw [hpop] at hp
    cases hp with
    | tooLarge n hsplit => exact .of_held rfl (Nat.le_refl _) (.tooLarge n hsplit)
  | case2 a net frame a₁ hpop =>
    cases h
    have hp := a.popped
    rw [hpop] at hp
    cases hp with
    | frame content rest hm hd hbytes =>
      have hlen := congrArg List.length hbytes
      simp only [length_octets, List.length_append] at hlen
      have hless : rest.size ≤ a.buffer.size := by omega
      exact .of_held rfl hless (.frame hm hd hbytes)
  | case3 a net a₁ hpop mid hread =>
    cases h
    have hpipe := Network.pipe_read_vain hread (by simp)
    exact .of_idle hpop (Network.touches_read hread) (by rw [hpipe]) (by rw [hpipe]) .late
  | case4 a net a₁ hpop mid hread =>
    cases h
    have hpipe := Network.pipe_read_vain hread (by simp)
    exact .of_idle hpop (Network.touches_read hread) (by rw [hpipe]) (by rw [hpipe]) .abandoned
  | case5 a net a₁ hpop mid hread =>
    cases h
    obtain ⟨due, hp⟩ := net.read_came hread
    obtain ⟨hw, hk⟩ := Pipe.read_ended hp
    exact .of_idle hpop (Network.touches_read hread) hw hk .closed
  | case6 a net a₁ hpop e mid hread htrans ih =>
    obtain ⟨due, hp⟩ := net.read_came hread
    obtain ⟨hw, hk⟩ := Pipe.read_failed hp
    exact .of_vain hpop (Network.touches_read hread) hw hk (ih h)
  | case7 a net a₁ hpop e mid hread htrans =>
    cases h
    obtain ⟨due, hp⟩ := net.read_came hread
    obtain ⟨hw, hk⟩ := Pipe.read_failed hp
    have hlasting : e.isTransient = false := by simpa using htrans
    exact .of_idle hpop (Network.touches_read hread) hw hk (.failed e hlasting)
  | case8 a net a₁ hpop b mid hread e a₂ hext =>
    obtain ⟨due, hp⟩ := net.read_came hread
    obtain ⟨-, -, -, hle, -⟩ := Pipe.read_bytes hp
    rw [extend_of_pop_none hpop hle] at hext
    cases hext
  | case9 a net a₁ hpop b mid hread a₂ hext ih => exact .of_bytes hpop hread hext (ih h)

end Courier.Link
