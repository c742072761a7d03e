import Courier.Proofs.Frame.Checked
import Courier.Proofs.Link.Run

/-!
# What one call for a frame can do

A copy of the reading loop keeps a record of each pass that reaches the stream,
and has no result when a cut goes out of bounds, when more bytes come than the
chunk has room for, or when the accumulator refuses what was read. It always has
one, and it is that of the loop itself; and the record shows that the loop asks
for what it has room for, and at least for one byte.
-/

namespace Courier.Link

variable {l₀ l l' : Link} {net₀ net net' : Network} {tr : List Event}

/-- A pass of the reading loop that reaches the stream: the bytes held and the
room beside them, how many bytes were asked for, and how many came. -/
structure Pass where
  held : Nat
  room : Nat
  asked : Nat
  got : Option Nat
  deriving DecidableEq, Repr

/-- The pass keeps to the limit of the accumulator. -/
structure Pass.Bounded (limit : Nat) (p : Pass) : Prop where
  held_add_room : p.held + p.room = limit
  asked_pos : 1 ≤ p.asked
  asked_le : p.asked ≤ min readSize p.room
  got : ∀ n, p.got = some n → 1 ≤ n ∧ n ≤ p.asked

/-- `gather` with every cut checked and a record of its passes. -/
def gatherChecked (stream : Nat) (d : Direction) (deadline : Nat) (a : Accumulator)
    (net : Network) :
    Option (List Pass × Call (Except Failure (Option ByteArray)) × Accumulator × Network) :=
  match a.popChecked with
  | none => none
  | some (.error e, a) => some ([], .returned (.error (.frame e)), a, net)
  | some (.ok (some frame), a) => some ([], .returned (.ok (some frame)), a, net)
  | some (.ok none, a) =>
    let pass (got : Option Nat) : Pass := ⟨a.size, a.room, want a, got⟩
    if readSize < want a then none
    else
      match _h : net.read stream d (want a) deadline with
      | (.late, after) => some ([pass none], .returned (.ok none), a, after)
      | (.abandoned, after) => some ([pass none], .abandoned, a, after)
      | (.came .ended, after) =>
        some ([pass none], .returned (.error .connectionClosed), a, after)
      | (.came (.failed e), after) =>
        if e.isTransient then
          (gatherChecked stream d deadline a after).map fun r => (pass none :: r.1, r.2)
        else some ([pass none], .returned (.error (.io e)), a, after)
      | (.came (.bytes b), after) =>
        if readSize < b.size then none
        else
          match a.extend b with
          | (.error _, _) => none
          | (.ok (), a) =>
            (gatherChecked stream d deadline a after).map fun r => (pass (some b.size) :: r.1, r.2)
termination_by (net.pipe stream d).outstanding
decreasing_by
  · obtain ⟨_, hread⟩ := net.read_came _h
    exact Pipe.outstanding_read_failed _ hread
  · obtain ⟨_, hread⟩ := net.read_came _h
    exact Pipe.outstanding_read_bytes _ (want_pos _) hread

/-- How many reads of a call got bytes. -/
def successes (passes : List Pass) : Nat := (passes.filterMap Pass.got).length

/-- What a call does at most: it asks for what there is room for, and so many of
its reads get bytes. -/
structure Bounded (limit : Nat) (passes : List Pass) : Prop where
  each : ∀ p ∈ passes, p.Bounded limit
  successes : successes passes ≤ limit

theorem Bounded.nil (limit : Nat) : Bounded limit [] := ⟨by simp, Nat.zero_le _⟩

theorem want_le_readSize (a : Accumulator) : want a ≤ readSize := by
  simp only [want, readSize]
  omega

theorem gatherChecked_of_pop_none {stream deadline : Nat} {d : Direction} {a a' : Accumulator}
    (h : a.pop = (.ok none, a')) : gatherChecked stream d deadline a net =
      match net.read stream d (want a') deadline with
      | (.late, after) =>
        some ([⟨a'.size, a'.room, want a', none⟩], .returned (.ok none), a', after)
      | (.abandoned, after) => some ([⟨a'.size, a'.room, want a', none⟩], .abandoned, a', after)
      | (.came .ended, after) =>
        some ([⟨a'.size, a'.room, want a', none⟩], .returned (.error .connectionClosed), a', after)
      | (.came (.failed e), after) =>
        if e.isTransient then
          (gatherChecked stream d deadline a' after).map fun r =>
            (⟨a'.size, a'.room, want a', none⟩ :: r.1, r.2)
        else some ([⟨a'.size, a'.room, want a', none⟩], .returned (.error (.io e)), a', after)
      | (.came (.bytes b), after) =>
        if readSize < b.size then none
        else
          match a'.extend b with
          | (.error _, _) => none
          | (.ok (), next) =>
            (gatherChecked stream d deadline next after).map fun r =>
              (⟨a'.size, a'.room, want a', some b.size⟩ :: r.1, r.2) := by
  rw [gatherChecked, a.popChecked_eq, h]
  dsimp only
  rw [if_neg (Nat.not_lt.mpr (want_le_readSize a'))]
  split <;> rename_i hread <;> rw [hread]

theorem bounded_of_pop_none {a a' : Accumulator} {got : Option Nat} (h : a.pop = (.ok none, a'))
    (hfit : a.size ≤ a.limit) (hgot : ∀ n, got = some n → 1 ≤ n ∧ n ≤ want a') :
    Pass.Bounded a.limit ⟨a'.size, a'.room, want a', got⟩ := by
  obtain ⟨rfl, -⟩ := eq_of_pop_none h
  have hroom := want_le_room (congrArg Prod.fst h)
  have hsize := want_le_readSize a'
  exact ⟨Nat.add_sub_of_le hfit, want_pos a', Nat.le_min.mpr ⟨hsize, hroom⟩, hgot⟩

/-- The checked loop has this result, and its passes keep to the limit. -/
def Agrees (stream : Nat) (d : Direction) (deadline : Nat) (a : Accumulator) (net : Network)
    (r : Call (Except Failure (Option ByteArray)) × Accumulator × Network) : Prop :=
  ∃ passes, gatherChecked stream d deadline a net = some (passes, r) ∧
    (∀ p ∈ passes, p.Bounded a.limit) ∧ successes passes ≤ a.room

namespace Agrees

variable {stream deadline : Nat} {d : Direction} {a a₁ : Accumulator} {mid : Network}
  {r : Call (Except Failure (Option ByteArray)) × Accumulator × Network}

theorem of_held (h : gatherChecked stream d deadline a net = some ([], r)) :
    Agrees stream d deadline a net r :=
  ⟨[], h, by simp, Nat.zero_le _⟩

theorem of_last (hfit : a.size ≤ a.limit) (hpop : a.pop = (.ok none, a₁))
    (h : gatherChecked stream d deadline a net =
      some ([⟨a₁.size, a₁.room, want a₁, none⟩], r)) : Agrees stream d deadline a net r := by
  refine ⟨_, h, ?_, Nat.zero_le _⟩
  intro p hp
  rw [List.mem_singleton.mp hp]
  exact bounded_of_pop_none hpop hfit nofun

theorem of_failed {e : IoError} (hfit : a.size ≤ a.limit) (hpop : a.pop = (.ok none, a₁))
    (hread : net.read stream d (want a₁) deadline = (.came (.failed e), mid))
    (htrans : e.isTransient = true) (h : Agrees stream d deadline a₁ mid r) :
    Agrees stream d deadline a net r := by
  obtain ⟨passes, heq, hbound, hcount⟩ := h
  obtain ⟨rfl, -⟩ := eq_of_pop_none hpop
  refine ⟨⟨a₁.size, a₁.room, want a₁, none⟩ :: passes, ?_, ?_, hcount⟩
  · rw [gatherChecked_of_pop_none hpop, hread]
    dsimp only
    rw [if_pos htrans, heq, Option.map_some]
  · intro p hp
    rcases List.mem_cons.mp hp with rfl | hp
    · exact bounded_of_pop_none hpop hfit nofun
    · exact hbound p hp

theorem of_bytes {a₂ : Accumulator} {b : ByteArray} (hfit : a.size ≤ a.limit)
    (hpop : a.pop = (.ok none, a₁))
    (hread : net.read stream d (want a₁) deadline = (.came (.bytes b), mid))
    (hext : a₁.extend b = (.ok (), a₂)) (h : Agrees stream d deadline a₂ mid r) :
    Agrees stream d deadline a net r := by
  obtain ⟨passes, heq, hbound, hcount⟩ := h
  obtain ⟨rfl, -⟩ := eq_of_pop_none hpop
  obtain ⟨due, hp⟩ := net.read_came hread
  obtain ⟨-, -, -, hle, hpos, -⟩ := Pipe.read_bytes hp
  have hsize := want_le_readSize a₁
  have hgrow := hpos (want_pos a₁)
  have hlimit : a₂.limit = a₁.limit ∧ a₂.size = a₁.size + b.size := by
    rw [extend_of_pop_none hpop hle] at hext
    cases hext
    exact ⟨rfl, ByteArray.size_append⟩
  refine ⟨⟨a₁.size, a₁.room, want a₁, some b.size⟩ :: passes, ?_, ?_, ?_⟩
  · rw [gatherChecked_of_pop_none hpop, hread]
    dsimp only
    rw [if_neg (by omega), hext]
    dsimp only
    rw [heq, Option.map_some]
  · intro p hp
    rcases List.mem_cons.mp hp with rfl | hp
    · apply bounded_of_pop_none hpop hfit
      intro n hn
      cases hn
      exact ⟨hgrow, hle⟩
    · exact hlimit.1 ▸ hbound p hp
  · have hin := a₁.size_extend_le hext
    simp only [successes, List.filterMap_cons, List.length_cons] at hcount ⊢
    simp only [Accumulator.room] at hcount ⊢
    omega

end Agrees

/-- The checked loop has a result, that of the loop, and keeps to its bounds. -/
theorem gatherChecked_spec (stream : Nat) (d : Direction) (deadline : Nat) (a : Accumulator)
    (net : Network) (hfit : a.size ≤ a.limit) :
    Agrees stream d deadline a net (gather stream d deadline a net) := by
  fun_induction gather stream d deadline a net with
  | case1 a net e a₁ hpop =>
    apply Agrees.of_held
    rw [gatherChecked, a.popChecked_eq, hpop]
  | case2 a net frame a₁ hpop =>
    apply Agrees.of_held
    rw [gatherChecked, a.popChecked_eq, hpop]
  | case3 a net a₁ hpop mid hread =>
    apply Agrees.of_last hfit hpop
    rw [gatherChecked_of_pop_none hpop, hread]
  | case4 a net a₁ hpop mid hread =>
    apply Agrees.of_last hfit hpop
    rw [gatherChecked_of_pop_none hpop, hread]
  | case5 a net a₁ hpop mid hread =>
    apply Agrees.of_last hfit hpop
    rw [gatherChecked_of_pop_none hpop, hread]
  | case6 a net a₁ hpop e mid hread htrans ih =>
    obtain ⟨rfl, -⟩ := eq_of_pop_none hpop
    exact .of_failed hfit hpop hread htrans (ih hfit)
  | case7 a net a₁ hpop e mid hread htrans =>
    apply Agrees.of_last hfit hpop
    rw [gatherChecked_of_pop_none hpop, hread]
    exact if_neg htrans
  | case8 a net a₁ hpop b mid hread e a₂ hext =>
    obtain ⟨due, hp⟩ := net.read_came hread
    obtain ⟨-, -, -, hle, -⟩ := Pipe.read_bytes hp
    rw [extend_of_pop_none hpop hle] at hext
    cases hext
  | case9 a net a₁ hpop b mid hread a₂ hext ih =>
    have hin := a₁.size_extend_le hext
    exact .of_bytes hfit hpop hread hext (ih hin)

/-- `readFrame` with every cut checked and a record of its passes. -/
def readFrameChecked (l : Link) (net : Network) :
    Option (List Pass × Call (Except Failure (Option ByteArray)) × Link × Network) :=
  if l.writing then some ([], .returned (.error .interruptedWrite), l, net)
  else
    match l.phase with
    | .connected stream =>
      (gatherChecked stream l.role.incoming (net.now + l.ioTimeout) l.accumulator net).map
        fun (passes, outcome, accumulator, net) => (passes, outcome, { l with accumulator }, net)
    | _ => some ([], .returned (.error .notConnected), l, net)

theorem readFrameChecked_spec (l : Link) (net : Network)
    (hfit : l.accumulator.size ≤ l.accumulator.limit) :
    ∃ passes, l.readFrameChecked net = some (passes, l.readFrame net) ∧
      Bounded l.accumulator.limit passes := by
  by_cases hw : l.writing = true
  · exact ⟨[], by rw [readFrameChecked, readFrame, if_pos hw, if_pos hw], .nil _⟩
  · unfold readFrameChecked readFrame
    rw [if_neg hw, if_neg hw]
    cases l.phase with
    | connected s =>
      obtain ⟨passes, heq, hbound, hcount⟩ := gatherChecked_spec s l.role.incoming
        (net.now + l.ioTimeout) l.accumulator net hfit
      refine ⟨passes, ?_, hbound, Nat.le_trans hcount (Nat.sub_le _ _)⟩
      dsimp only
      rw [heq, Option.map_some]
    | listening => exact ⟨[], rfl, .nil _⟩
    | reconnecting outage => exact ⟨[], rfl, .nil _⟩
    | disconnected => exact ⟨[], rfl, .nil _⟩

theorem readFrame_ne_overflow (l : Link) (net : Network) (held incoming limit : Nat) :
    (l.readFrame net).1 ≠ .returned (.error (.frame (.bufferOverflow held incoming limit))) := by
  intro h
  unfold readFrame at h
  split at h
  · cases h
  · split at h
    · rename_i s _
      generalize hg : gather s l.role.incoming (net.now + l.ioTimeout) l.accumulator net = g at h
      obtain ⟨o, a, after⟩ := g
      obtain ⟨-, -, -, -, -, got, -, hend⟩ := gather_spec hg
      rw [show o = _ from h] at hend
      generalize octets a.buffer = left at hend
      cases hend with
      | idle hi => cases hi
    · cases h

/-- No operation makes a link hold more than one frame of the largest size. -/
theorem Change.fits {e : Event} (h : Change l net e l' net')
    (hfit : l.accumulator.size ≤ l.accumulator.limit) :
    l'.accumulator.size ≤ l'.accumulator.limit := by
  cases h with
  | stays _ _ _ _ ha =>
    rw [ha]
    exact hfit
  | joins _ _ _ _ _ ha =>
    rw [ha]
    exact Nat.zero_le _
  | leaves _ _ _ _ ha =>
    rw [ha]
    exact hfit
  | transfers _ _ ht =>
    cases ht with
    | refused => exact hfit
    | writes => exact hfit
    | reads _ _ _ _ _ _ _ _ hkeep => exact hkeep hfit

theorem Run.fits (hn : New l₀ net₀) (h : Run l₀ net₀ tr l net) :
    l.accumulator.size ≤ l.accumulator.limit := by
  induction h with
  | nil =>
    rw [Accumulator.size, hn.buffer]
    exact Nat.zero_le _
  | call hr hs ih => exact (hs.change (hr.coherent hn.coherent)).fits ih
  | drift _ _ ih => exact ih

end Courier.Link
