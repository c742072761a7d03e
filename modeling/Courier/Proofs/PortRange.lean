import Courier.PortRange
import Courier.Proofs.Text

/-!
# How port ranges are written

The texts that stand for a range are given as a grammar: a port is a numeral with white space
around it, and a range is one port, or two with a colon between them. The reader of ranges
accepts these texts and no others, if the ends are not the wrong way round, and what the
printer writes is one of them.
-/

namespace Courier.PortRange

open Text

variable {cs : List Char} {low high n : Nat} {r : PortRange} {text : String}

/-! ## The grammar -/

/-- A port with white space around it. -/
inductive Port : List Char → Nat → Prop
  | padded (before after : List Char) {numeral : List Char} {n : Nat} (hb : Blank before)
      (ha : Blank after) (hn : Numeral numeral n) (hmax : n ≤ maxPort) :
      Port (before ++ numeral ++ after) n

/-- A range, with its ends in either order. -/
inductive Written : List Char → Nat → Nat → Prop
  | one {cs : List Char} {port : Nat} (hcolon : ':' ∉ cs) (hp : Port cs port) :
      Written cs port port
  | two {front back : List Char} {low high : Nat} (hcolon : ':' ∉ front) (hlow : Port front low)
      (hhigh : Port back high) : Written (front ++ ':' :: back) low high

theorem port_iff_trim : Port cs n ↔ Numeral (trim cs) n ∧ n ≤ maxPort := by
  constructor
  · rintro ⟨before, after, hb, ha, hn, hmax⟩
    rw [trim_pad hb ha hn.trim_eq]
    exact ⟨hn, hmax⟩
  · rintro ⟨hn, hmax⟩
    obtain ⟨before, after, hb, ha, heq⟩ := exists_trim cs
    rw [heq]
    exact .padded before after hb ha hn hmax

/-! ## The reader -/

theorem readPort?_eq_some_iff {port : { port : Nat // port ≤ 65535 }} :
    readPort? cs = some port ↔ Port cs port.1 := by
  rw [port_iff_trim, ← readNat?_eq_some_iff]
  unfold readPort?
  split
  · rename_i h
    simp [h]
  · rename_i m h
    rw [h]
    split
    · simp [Subtype.ext_iff]
    · rename_i hlarge
      exact absurd (readNat?_eq_some_iff.mp h).2 hlarge

theorem readPort?_eq_none (h : ∀ n, ¬ Port cs n) : readPort? cs = none := by
  cases hp : readPort? cs with
  | none => rfl
  | some port => exact absurd (readPort?_eq_some_iff.mp hp) (h port.1)

theorem parse_of_not_mem (h : ':' ∉ text.toList) : parse text =
    (readPort? text.toList).elim (.error (invalid text))
      fun port => .ok (single port.1 port.2) := by
  have hdrop : text.toList.dropWhile (· ≠ ':') = [] := by
    rw [List.dropWhile_eq_nil_iff]
    intro c hc
    simpa using fun heq : c = ':' => h (heq ▸ hc)
  simp only [parse, hdrop]
  cases readPort? text.toList <;> rfl

theorem parse_of_colon {front back : List Char} (hcolon : ':' ∉ front)
    (h : text.toList = front ++ ':' :: back) : parse text =
    (readPort? front).elim (.error (invalid text)) fun low =>
      (readPort? back).elim (.error (invalid text)) fun high =>
        ofBounds low.1 high.1 high.2 := by
  have hfront : ∀ c ∈ front, (decide (c ≠ ':')) = true := by
    intro c hc
    simpa using fun heq : c = ':' => hcolon (heq ▸ hc)
  have hdrop : text.toList.dropWhile (· ≠ ':') = ':' :: back := by
    rw [h, List.dropWhile_append_of_pos hfront]
    simp
  have htake : text.toList.takeWhile (· ≠ ':') = front := by
    rw [h, List.takeWhile_append_of_pos hfront]
    simp
  simp only [parse, hdrop, htake]
  cases readPort? front <;> cases readPort? back <;> rfl

theorem parse_of_written (h : Written text.toList low high) :
    ∃ hmax : high ≤ 65535, parse text = ofBounds low high hmax := by
  generalize heq : text.toList = cs at h
  cases h with
  | one hcolon hp =>
    have hmax : low ≤ 65535 := (port_iff_trim.mp hp).2
    refine ⟨hmax, ?_⟩
    have hread : readPort? cs = some ⟨low, hmax⟩ := readPort?_eq_some_iff.mpr hp
    rw [parse_of_not_mem (heq ▸ hcolon), heq, hread]
    rw [Option.elim_some, ofBounds, dif_pos (Nat.le_refl low)]
    rfl
  | @two front back low high hcolon hlow hhigh =>
    have hmax : low ≤ 65535 := (port_iff_trim.mp hlow).2
    have hmax' : high ≤ 65535 := (port_iff_trim.mp hhigh).2
    refine ⟨hmax', ?_⟩
    have hfront : readPort? front = some ⟨low, hmax⟩ := readPort?_eq_some_iff.mpr hlow
    have hback : readPort? back = some ⟨high, hmax'⟩ := readPort?_eq_some_iff.mpr hhigh
    rw [parse_of_colon hcolon heq, hfront, hback]
    rfl

theorem parse_eq_ok (h : Written text.toList r.low r.high) : parse text = .ok r := by
  obtain ⟨hmax, hparse⟩ := parse_of_written h
  rw [hparse, ofBounds, dif_pos r.low_le_high]

theorem parse_of_inverted (h : Written text.toList low high) (hlt : high < low) :
    parse text = .error (.settings s!"port range {low}:{high} is inverted") := by
  obtain ⟨hmax, hparse⟩ := parse_of_written h
  rw [hparse, ofBounds, dif_neg (Nat.not_le.mpr hlt)]

theorem parse_of_not_written (h : ∀ low high, ¬ Written text.toList low high) :
    parse text = .error (invalid text) := by
  by_cases hcolon : ':' ∈ text.toList
  · obtain ⟨front, back, heq, hfirst⟩ := List.eq_append_cons_of_mem hcolon
    rw [parse_of_colon hfirst heq]
    cases hfront : readPort? front with
    | none => rfl
    | some low =>
      have hlow := readPort?_eq_some_iff.mp hfront
      have hback : readPort? back = none := by
        refine readPort?_eq_none fun n hhigh => h low n ?_
        rw [heq]
        exact .two hfirst hlow hhigh
      rw [hback]
      rfl
  · rw [parse_of_not_mem hcolon, readPort?_eq_none fun n hp => h n n (.one hcolon hp)]
    rfl

/-- A text stands for a range, or is refused. -/
theorem written_or_refused (text : String) :
    (∃ r : PortRange, Written text.toList r.low r.high) ∨
      ∃ message, parse text = .error (.settings message) := by
  by_cases hw : ∃ low high, Written text.toList low high
  · obtain ⟨low, high, hw⟩ := hw
    obtain ⟨hmax, -⟩ := parse_of_written hw
    rcases Nat.lt_or_ge high low with hlt | hle
    · exact .inr ⟨_, parse_of_inverted hw hlt⟩
    · exact .inl ⟨⟨low, high, hle, hmax⟩, hw⟩
  · exact .inr ⟨_, parse_of_not_written fun low high h => hw ⟨low, high, h⟩⟩

theorem written_of_parse (h : parse text = .ok r) : Written text.toList r.low r.high := by
  rcases written_or_refused text with ⟨r', hw⟩ | ⟨message, hrefused⟩
  · rw [parse_eq_ok hw] at h
    cases h
    exact hw
  · rw [hrefused] at h
    cases h

/-! ## The printer -/

theorem port_toDigits (h : n ≤ maxPort) : Port (Nat.toDigits 10 n) n := by
  rw [port_iff_trim, (numeral_toDigits n).trim_eq]
  exact ⟨numeral_toDigits n, h⟩

theorem colon_not_mem_toDigits (n : Nat) : ':' ∉ Nat.toDigits 10 n := by
  intro hmem
  have hdigit := Nat.isDigit_of_mem_toDigits (by decide) (by decide) hmem
  exact absurd hdigit (by decide)

/-- A range is printed as one of the texts that stand for it. -/
theorem written_toText (r : PortRange) : Written r.toText.toList r.low r.high := by
  have hlow : r.low ≤ maxPort := Nat.le_trans r.low_le_high r.high_le
  unfold toText
  split
  · rename_i heq
    rw [← heq, Nat.toString_eq_repr, Nat.toList_repr]
    exact .one (colon_not_mem_toDigits _) (port_toDigits hlow)
  · have hlist : (s!"{r.low}:{r.high}").toList =
        Nat.toDigits 10 r.low ++ ':' :: Nat.toDigits 10 r.high := by
      simp only [String.toList_append, Nat.toString_eq_repr, Nat.toList_repr, List.append_assoc]
      rfl
    rw [hlist]
    exact .two (colon_not_mem_toDigits _) (port_toDigits hlow) (port_toDigits r.high_le)

/-! ## The ports -/

theorem getElem?_ports (r : PortRange) (i : Nat) :
    r.ports[i]? = if r.low + i ≤ r.high then some (r.low + i) else none := by
  have := r.low_le_high
  by_cases hi : r.low + i ≤ r.high
  · rw [if_pos hi, ports, List.getElem?_range' (by omega), Nat.one_mul]
  · rw [if_neg hi, List.getElem?_eq_none]
    rw [ports, List.length_range']
    omega

/-- A text is accepted exactly if it is in the grammar with its ends in order, and then it
stands for these ends. Every range is printed as a text that stands for it, and so as the same
text as any other that does. The ports of a range are the numbers from the lowest to the
highest, one after the other, and the highest may be the last there is. -/
theorem parse_exact :
    (∀ text r, parse text = .ok r ↔ Written text.toList r.low r.high) ∧
    (∀ text, (∀ r : PortRange, ¬ Written text.toList r.low r.high) →
      ∃ message, parse text = .error (.settings message)) ∧
    (∀ r : PortRange, parse r.toText = .ok r) ∧
    (∀ text (r : PortRange), Written text.toList r.low r.high →
      (parse text).map toText = .ok r.toText) ∧
    ∀ r : PortRange, (∀ p ∈ r.ports, p ≤ 65535) ∧
      ∀ i, r.ports[i]? = if r.low + i ≤ r.high then some (r.low + i) else none := by
  refine ⟨?_, ?_, ?_, ?_, ?_⟩
  · exact fun text r => ⟨written_of_parse, parse_eq_ok⟩
  · intro text hnot
    exact (written_or_refused text).resolve_left fun ⟨r, hw⟩ => hnot r hw
  · exact fun r => parse_eq_ok (written_toText r)
  · intro text r h
    rw [parse_eq_ok h]
    rfl
  · intro r
    exact ⟨fun p hp => Nat.le_trans (mem_ports.mp hp).2 r.high_le, r.getElem?_ports⟩

/-- The last two ports, with a sign, a leading zero and white space of several kinds, and two
ports the wrong way round. -/
theorem parse_exact_padded :
    let r : PortRange := ⟨65534, 65535, by decide, by decide⟩
    parse " +065534:\u00a065535\u3000" = .ok r ∧
    (parse " +065534:\u00a065535\u3000").map toText = .ok "65534:65535" ∧
    (∃ message, parse "2:1" = .error (.settings message)) ∧
    r.ports[1]? = some 65535 ∧ r.ports[2]? = none := by
  intro r
  obtain ⟨haccepted, hrefused, -, hprinted, hports⟩ := parse_exact
  have hlow : Port [' ', '+', '0', '6', '5', '5', '3', '4'] 65534 := by
    have hn : Numeral ['+', '0', '6', '5', '5', '3', '4'] 65534 := .signed (by simp) (by simp)
    exact .padded [' '] [] (by decide) (by decide) hn (by decide)
  have hhigh : Port ['\u00a0', '6', '5', '5', '3', '5', '\u3000'] 65535 := by
    have hn : Numeral ['6', '5', '5', '3', '5'] 65535 := .unsigned (by simp) (by simp)
    exact .padded ['\u00a0'] ['\u3000'] (by decide) (by decide) hn (by decide)
  have hwritten : Written " +065534:\u00a065535\u3000".toList 65534 65535 :=
    .two (by simp) hlow hhigh
  have htext : r.toText = "65534:65535" := by cbv
  refine ⟨(haccepted _ r).mpr hwritten, ?_, ?_, (hports r).2 1, (hports r).2 2⟩
  · rw [hprinted _ r hwritten, htext]
  · apply hrefused
    intro r' hinverted
    have hno : (parse "2:1").toBool = false := by cbv
    rw [(haccepted _ _).mpr hinverted] at hno
    cases hno

end Courier.PortRange
