import Courier.Proofs.Frame.Orderly
import Courier.Proofs.Link.Reading

/-!
# Reading an orderly stream

The bytes that a link holds are what it has received behind the frames that it has
handed on. So on an orderly stream it finds no violation of the protocol, and every
frame that it hands on has a good content.
-/

namespace Courier.Link

variable {max : Nat} {Good : List UInt8 → Prop} {stream bytes left : List UInt8}
  {o : Call (Except Failure (Option ByteArray))} {f : Failure}

theorem Idle.isViolation_eq_false (h : Idle o) (ho : o = .returned (.error f)) :
    f.isViolation = false := by
  cases h with
  | late => cases ho
  | abandoned => cases ho
  | closed =>
    cases ho
    rfl
  | failed =>
    cases ho
    rfl

/-- What comes of an orderly stream: no violation, and nothing but good contents. -/
structure Harmless (Good : List UInt8 → Prop) (o : Call (Except Failure (Option ByteArray))) :
    Prop where
  error : ∀ f, o = .returned (.error f) → f.isViolation = false
  frame : ∀ content, o = .returned (.ok (some content)) → Good (octets content)

theorem Gathered.harmless {limit : Nat} (h : Gathered limit bytes o left)
    (ho : Frame.Orderly max Good stream) (hmax : max ≤ Frame.maxDeclared) (hle : max ≤ limit)
    (hfront : bytes <+: stream) : Harmless Good o := by
  cases h with
  | @frame content _ hm hd h =>
    refine ⟨nofun, ?_⟩
    rintro _ ⟨⟩
    rw [h] at hfront
    exact ho.good hmax hd hfront
  | tooLarge n h => exact absurd h (ho.split_ne_tooLarge hmax hle hfront)
  | idle hi =>
    refine ⟨fun f => hi.isViolation_eq_false, ?_⟩
    rintro _ rfl
    cases hi

/-- Reading a frame from an orderly stream. -/
theorem Receiving.harmless {s : Nat} {tr : List Event} {l l' : Link} {net net' : Network}
    (h : Receiving s tr l net) (hp : l.phase = .connected s)
    (ho : Frame.Orderly max Good stream) (hmax : max ≤ Frame.maxDeclared) (hle : max ≤ l.maxFrame)
    (hfront : octets (net.pipe s l.role.incoming).written <+: stream)
    (hread : l.readFrame net = (o, l', net')) : Harmless Good o := by
  cases hw : l.writing with
  | true =>
    unfold readFrame at hread
    rw [if_pos hw] at hread
    cases hread
    refine ⟨?_, nofun⟩
    rintro _ ⟨⟩
    rfl
  | false =>
    obtain ⟨a, hgather, -⟩ := readFrame_connected hp hw hread
    obtain ⟨-, hwritten, -, -, -, got, hgot, hend⟩ := gather_spec hgather
    -- the bytes held and those just read stand behind the frames handed on
    have hseen := (net'.pipe s l.role.incoming).received_prefix_written
    rw [hwritten, hgot, h.received_eq hp, List.append_assoc] at hseen
    have hsizes : ∀ c ∈ (framesOn s tr).map octets, c.length ≤ Frame.maxDeclared := by
      intro c hc
      obtain ⟨frame, hframe, rfl⟩ := List.mem_map.mp hc
      exact (h.sizes frame hframe).2
    obtain ⟨back, hback, hbytes⟩ := ho.rest hmax hsizes (hseen.trans hfront)
    exact hend.harmless hback hmax hle hbytes

end Courier.Link
