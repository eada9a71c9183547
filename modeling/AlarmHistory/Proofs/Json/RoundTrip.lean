import AlarmHistory.Json.Record
import AlarmHistory.Proofs.Lookup
import Mathlib.Tactic.SplitIfs

/- The text of a value is read back as the value, if it holds no number but integers that fit 64
   bits. Each part is scanned with any containers open around it. -/
namespace AlarmHistory

namespace Decimal

theorem digit_value {d : Nat} (small : d < 10) : digitValue? (digitChar d) = some d := by
  have all : ∀ d < 10, digitValue? (digitChar d) = some d := by decide
  exact all d small

theorem digit_zero {d : Nat} (small : d < 10) : digitChar d = '0' ↔ d = 0 := by
  have all : ∀ d < 10, digitChar d = '0' ↔ d = 0 := by decide
  exact all d small

theorem natDigits_small {n : Nat} (small : n < 10) : natDigits n = [digitChar n] := by
  rw [natDigits, if_pos small]

theorem natDigits_large {n : Nat} (large : ¬ n < 10) :
    natDigits n = natDigits (n / 10) ++ [digitChar (n % 10)] := by
  rw [natDigits, if_neg large]

theorem natDigits_digits (n : Nat) : ∀ c ∈ natDigits n, (digitValue? c).isSome := by
  induction n using natDigits.induct with
  | case1 n small =>
    rw [natDigits_small small]
    intro c member
    rw [List.mem_singleton.mp member, digit_value small]
    rfl
  | case2 n large ih =>
    rw [natDigits_large large]
    intro c member
    rcases List.mem_append.mp member with front | last
    · exact ih c front
    · rw [List.mem_singleton.mp last, digit_value (Nat.mod_lt n (by decide))]
      rfl

theorem ofDigits_natDigits (n : Nat) : ofDigits (natDigits n) = n := by
  induction n using natDigits.induct with
  | case1 n small => simp [natDigits_small small, ofDigits, digit_value small]
  | case2 n large ih =>
    rw [natDigits_large large, ofDigits, List.foldl_append, ← ofDigits, ih]
    simp only [List.foldl_cons, List.foldl_nil, digit_value (Nat.mod_lt n (by decide : 0 < 10)),
      Option.getD_some]
    omega

theorem natDigits_head (n : Nat) : ∃ d ds, natDigits n = d :: ds ∧ (d = '0' → n = 0) := by
  induction n using natDigits.induct with
  | case1 n small => exact ⟨_, [], natDigits_small small, (digit_zero small).mp⟩
  | case2 n large ih =>
    obtain ⟨d, ds, digits, leads⟩ := ih
    have longer : natDigits n = d :: (ds ++ [digitChar (n % 10)]) := by
      rw [natDigits_large large, digits]
      rfl
    refine ⟨d, ds ++ [digitChar (n % 10)], longer, fun zero => ?_⟩
    have none := leads zero
    omega

end Decimal

namespace Json
open Decimal

mutual

/-- No numbers but integers that fit 64 bits. -/
def Exact : Json → Prop
  | .int i => -9223372036854775808 ≤ i ∧ i < 18446744073709551616
  | .float _ => False
  | .arr items => ExactItems items
  | .obj members => ExactMembers members
  | _ => True

def ExactItems : List Json → Prop
  | [] => True
  | v :: rest => Exact v ∧ ExactItems rest

def ExactMembers : List (String × Json) → Prop
  | [] => True
  | (_, v) :: rest => Exact v ∧ ExactMembers rest

end

theorem exact_items (vs : List Json) : ExactItems vs ↔ ∀ v ∈ vs, v.Exact := by
  induction vs with
  | nil => simp [ExactItems]
  | cons v vs ih => simp [ExactItems, ih]

theorem exact_members (ms : List (String × Json)) : ExactMembers ms ↔ ∀ e ∈ ms, e.2.Exact := by
  induction ms with
  | nil => simp [ExactMembers]
  | cons e ms ih => simp [ExactMembers, ih]

theorem insertMember_exact {k : String} {v : Json} {ms : List (String × Json)} (exact : v.Exact)
    (all : ExactMembers ms) : ExactMembers (insertMember k v ms) := by
  induction ms with
  | nil => exact ⟨exact, trivial⟩
  | cons e ms ih =>
    obtain ⟨l, w⟩ := e
    simp only [insertMember]
    split
    · exact ⟨exact, all⟩
    · split
      · exact ⟨exact, all.2⟩
      · exact ⟨all.1, ih all.2⟩

mutual

theorem sorted_exact : ∀ v : Json, v.Exact → v.sorted.Exact
  | .null, exact | .bool _, exact | .int _, exact | .float _, exact | .str _, exact => exact
  | .arr vs, exact => sortedItems_exact vs exact
  | .obj ms, exact => sortedMembers_exact ms [] exact trivial

theorem sortedItems_exact : ∀ vs : List Json, ExactItems vs → ExactItems (sortedItems vs)
  | [], _ => trivial
  | v :: vs, exact => ⟨sorted_exact v exact.1, sortedItems_exact vs exact.2⟩

theorem sortedMembers_exact : ∀ ms done : List (String × Json), ExactMembers ms →
    ExactMembers done → ExactMembers (sortedMembers ms done)
  | [], _, _, done => done
  | (_, v) :: ms, _, exact, done =>
    sortedMembers_exact ms _ exact.2 (insertMember_exact (sorted_exact v exact.1) done)

end

namespace Numeral

theorem take_all (m : Nat) (ds : List Char)
    (small : ds.foldl (fun n c => 10 * n + digit c) m < limit) :
    take m ds = (ds.foldl (fun n c => 10 * n + digit c) m, []) := by
  induction ds generalizing m with
  | nil => rfl
  | cons d ds ih =>
    have grows : ∀ (ds : List Char) (m : Nat), m ≤ ds.foldl (fun n c => 10 * n + digit c) m := by
      intro ds
      induction ds with
      | nil => exact fun m => Nat.le_refl m
      | cons d ds ih =>
        intro m
        have later := ih (10 * m + digit d)
        rw [List.foldl_cons]
        omega
    have first := grows ds (10 * m + digit d)
    rw [List.foldl_cons] at small ⊢
    rw [take, if_pos (Nat.lt_of_le_of_lt first small), ih _ small]

theorem significand_natDigits (negative : Bool) {n : Nat} (small : n < limit) :
    significand ⟨negative, natDigits n, none, none⟩ = (n, 0) := by
  have value : (natDigits n).foldl (fun n c => 10 * n + digit c) 0 = n := ofDigits_natDigits n
  have whole := take_all 0 (natDigits n) (by rw [value]; exact small)
  rw [value] at whole
  simp [significand, whole, take]

theorem reading_intDigits {i : Int} (exact : (Json.int i).Exact) :
    reading ⟨decide (i < 0), natDigits i.natAbs, none, none⟩ = .int i := by
  obtain ⟨low, high⟩ := exact
  have small : i.natAbs < limit := by
    have fits : limit = 18446744073709551616 := rfl
    omega
  rw [reading, significand_natDigits _ small]
  by_cases negative : i < 0
  · have within : 0 < i.natAbs ∧ i.natAbs ≤ Nat.pow 2 63 := by
      have half : Nat.pow 2 63 = 9223372036854775808 := rfl
      omega
    have back : -(i.natAbs : Int) = i := by omega
    simp only [isInteger, Option.isNone_none, Bool.and_self, BEq.rfl, negative, decide_true,
      Bool.not_true, Bool.and_false, Bool.false_eq_true, ↓reduceIte, within, and_self, back]
  · have back : (i.natAbs : Int) = i := by omega
    simp only [isInteger, Option.isNone_none, Bool.and_self, BEq.rfl, negative, decide_false,
      Bool.not_false, ↓reduceIte, back]

end Numeral

namespace Scan

/-- What may follow a value inside a container. -/
def Delimits (c : Char) : Prop := c = ',' ∨ c = ']' ∨ c = '\x7d'

/-- Two scans that neither a delimiter nor the end of the text tells apart. A number is not finished
    before one of these comes. -/
structure Alike (s t : Scan) : Prop where
  onward : ∀ c, Delimits c → s.step c = t.step c
  finish : s.finish = t.finish

theorem alike_refl (s : Scan) : s.Alike s := ⟨fun _ _ => rfl, rfl⟩

theorem deliver_cases (frames : List Frame) (r : Reading) :
    (∃ fs, deliver frames r = .going fs .after) ∨ ∃ v, deliver frames r = .ended v none := by
  cases frames with
  | nil => exact Or.inr ⟨r, rfl⟩
  | cons frame frames =>
    cases frame with
    | arr done => exact Or.inl ⟨_, rfl⟩
    | obj done key =>
      simp only [deliver]
      split
      · exact Or.inr ⟨_, rfl⟩
      · exact Or.inl ⟨_, rfl⟩

theorem number_alike (frames : List Frame) {stage : NumeralStage}
    (plain : stage = .zero ∨ stage = .whole) (n : Numeral) :
    (Scan.going frames (.number stage n)).Alike (deliver frames n.reading) := by
  constructor
  · intro c delimits
    have ended : extendNumber stage n c = none := by
      rcases plain with rfl | rfl <;> rcases delimits with rfl | rfl | rfl <;> rfl
    have ends : (!stage.complete || (stage == .zero && isDigit c)) = false := by
      rcases plain with rfl | rfl <;> rcases delimits with rfl | rfl | rfl <;> rfl
    simp only [step, ended, ends, Bool.false_eq_true, if_false]
    rcases deliver_cases frames n.reading with ⟨fs, there⟩ | ⟨v, there⟩ <;> rw [there]
  · have ends : stage.complete = true := by
      rcases plain with rfl | rfl <;> rfl
    simp only [finish, ends, Bool.not_true, Bool.false_eq_true, if_false]
    rcases deliver_cases frames n.reading with ⟨fs, there⟩ | ⟨v, there⟩ <;> rw [there]

theorem scan_digits (frames : List Frame) (n : Numeral) (ds : List Char)
    (digits : ∀ c ∈ ds, isDigit c) :
    ds.foldl step (.going frames (.number .whole n)) =
      .going frames (.number .whole { n with whole := n.whole ++ ds }) := by
  induction ds generalizing n with
  | nil => simp
  | cons d ds ih =>
    have digit : isDigit d := digits d List.mem_cons_self
    have next : step (.going frames (.number .whole n)) d =
        .going frames (.number .whole { n with whole := n.whole ++ [d] }) := by
      simp only [step, extendNumber, digit, if_true]
    rw [List.foldl_cons, next, ih _ fun c member => digits c (List.mem_cons_of_mem d member)]
    simp

section Digit
variable {d : Char} (digit : isDigit d)
include digit

theorem digit_other {c : Char} (unlike : isDigit c = false) : d ≠ c := by
  rintro rfl
  rw [digit] at unlike
  cases unlike

theorem digit_blank : isBlank d = false := by
  have other {c : Char} (unlike : isDigit c = false) := digit_other digit unlike
  simp [isBlank, other (c := ' ') rfl, other (c := '\n') rfl, other (c := '\t') rfl,
    other (c := '\r') rfl]

theorem start_digit (frames : List Frame) :
    step (.going frames .value) d = startNumber frames false d := by
  have other {c : Char} (unlike : isDigit c = false) := digit_other digit unlike
  simp only [step, stepMode, digit_blank digit, startValue, other (c := '"') rfl,
    other (c := '[') rfl, other (c := '\x7b') rfl, other (c := 'n') rfl, other (c := 't') rfl,
    other (c := 'f') rfl, other (c := '-') rfl, Bool.false_eq_true, if_false]

end Digit

theorem scan_int (frames : List Frame) {i : Int} (exact : (Json.int i).Exact) :
    ((intDigits i).foldl step (.going frames .value)).Alike (deliver frames (.int i)) := by
  rw [← Numeral.reading_intDigits exact]
  obtain ⟨d, ds, digits, leads⟩ := natDigits_head i.natAbs
  have all := natDigits_digits i.natAbs
  rw [digits] at all
  have digit : isDigit d := all d List.mem_cons_self
  have rest : ∀ c ∈ ds, isDigit c := fun c member => all c (List.mem_cons_of_mem d member)
  unfold intDigits
  by_cases negative : i < 0
  · have large : d ≠ '0' := fun zero => by
      have none := leads zero
      omega
    have first : step (step (.going frames .value) '-') d =
        .going frames (.number .whole ⟨true, [d], none, none⟩) := by
      change step (.going frames (.number .sign ⟨true, [], none, none⟩)) d = _
      simp only [step, extendNumber, large, digit, if_false, if_true]
    rw [if_pos negative, digits, List.foldl_cons, List.foldl_cons, first,
      scan_digits frames _ ds rest, decide_eq_true negative]
    exact number_alike frames (Or.inr rfl) _
  · rw [if_neg negative, decide_eq_false negative, digits, List.foldl_cons,
      start_digit digit, startNumber]
    by_cases zero : d = '0'
    · have alone : ds = [] := by
        rw [leads zero, natDigits_small (by decide)] at digits
        exact (List.cons.inj digits).2.symm
      rw [if_pos zero, alone]
      exact number_alike frames (Or.inl rfl) _
    · rw [if_neg zero, if_pos digit, scan_digits frames _ ds rest]
      exact number_alike frames (Or.inr rfl) _

theorem hex_value {d : Nat} (small : d < 16) :
    hexValue? (hexDigit d) = some d ∧ (hexDigit d).utf8Size = 1 := by
  have all : ∀ d < 16, hexValue? (hexDigit d) = some d ∧ (hexDigit d).utf8Size = 1 := by decide
  exact all d small

/-- A character of a string, whether or not it is written as an escape. -/
theorem scan_char (frames : List Frame) (isKey : Bool) (done : List Char) (c : Char) :
    (escapeChar c).foldl step (.going frames (.text isKey .plain done true)) =
      .going frames (.text isKey .plain (c :: done) true) := by
  unfold escapeChar
  split_ifs with quote slash backspace feed line return_ tab control
  · rw [quote]
    rfl
  · rw [slash]
    rfl
  · rw [backspace]
    rfl
  · rw [feed]
    rfl
  · rw [line]
    rfl
  · rw [return_]
    rfl
  · rw [tab]
    rfl
  · obtain ⟨high, wide⟩ := hex_value (d := c.toNat / 16) (by omega)
    obtain ⟨low, wide'⟩ := hex_value (d := c.toNat % 16) (by omega)
    have zeros : ['\\', 'u', '0', '0'].foldl step (.going frames (.text isKey .plain done true)) =
        .going frames (.text isKey (.hex 2 (some 0) none) done true) := rfl
    have whole : 16 * (c.toNat / 16) + c.toNat % 16 = c.toNat := by omega
    have whole' : isHigh c.toNat = false ∧ isLow c.toNat = false := by
      simp [isHigh, isLow]
      omega
    change [hexDigit (c.toNat / 16), hexDigit (c.toNat % 16)].foldl step
      (['\\', 'u', '0', '0'].foldl step (.going frames (.text isKey .plain done true))) = _
    rw [zeros]
    simp [step, stepText, stepHex, high, wide, low, wide', finishHex, whole, whole']
  · simp only [List.foldl_cons, List.foldl_nil, step, stepText, stepPlain, quote, slash, control,
      if_false]

theorem scan_text (frames : List Frame) (isKey : Bool) (cs done : List Char) :
    (cs.flatMap escapeChar).foldl step (.going frames (.text isKey .plain done true)) =
      .going frames (.text isKey .plain (cs.reverse ++ done) true) := by
  induction cs generalizing done with
  | nil => rfl
  | cons c cs ih =>
    rw [List.flatMap_cons, List.foldl_append, scan_char, ih, List.reverse_cons, List.append_assoc]
    rfl

theorem scan_string (frames : List Frame) (s : String) :
    (quoted s).foldl step (.going frames .value) = deliver frames (.str s) := by
  have opened : step (.going frames .value) '"' = .going frames (.text false .plain [] true) := rfl
  rw [quoted, List.foldl_cons, opened, List.foldl_append, scan_text]
  simp [step, stepText, stepPlain, finishText]

theorem scan_key (frames : List Frame) (done : List (Key × Reading)) (k : String) :
    (quoted k).foldl step (.going (.awaiting done :: frames) .nextKey) =
      .going (.obj done (.name k) :: frames) .colon := by
  have opened : step (.going (.awaiting done :: frames) .nextKey) '"' =
      .going (.awaiting done :: frames) (.text true .plain [] true) := rfl
  rw [quoted, List.foldl_cons, opened, List.foldl_append, scan_text]
  simp [step, stepText, stepPlain, finishText, Frame.awaiting]

theorem first_char {v : Json} (exact : v.Exact) : ∃ c cs, v.chars = c :: cs ∧
    ∀ frames, step (.going frames .firstItem) c = step (.going frames .value) c := by
  cases v with
  | null => exact ⟨'n', _, rfl, fun _ => rfl⟩
  | bool b => cases b <;> exact ⟨_, _, rfl, fun _ => rfl⟩
  | int i =>
    rw [chars, intDigits]
    split
    · exact ⟨'-', _, rfl, fun _ => rfl⟩
    · obtain ⟨d, ds, digits, _⟩ := natDigits_head i.natAbs
      have digit : isDigit d := natDigits_digits i.natAbs d (by simp [digits])
      refine ⟨d, ds, digits, fun frames => ?_⟩
      simp only [step, stepMode, digit_blank digit, digit_other digit (c := ']') rfl,
        Bool.false_eq_true, if_false]
  | float x => exact exact.elim
  | str s => exact ⟨'"', _, rfl, fun _ => rfl⟩
  | arr items => exact ⟨'[', _, rfl, fun _ => rfl⟩
  | obj members => exact ⟨'\x7b', _, rfl, fun _ => rfl⟩

theorem first_item {vs : List Json} (exact : ExactItems vs) (some : vs ≠ []) (frames : List Frame) :
    (itemChars vs).foldl step (.going frames .firstItem) =
      (itemChars vs).foldl step (.going frames .value) := by
  obtain ⟨v, vs, rfl⟩ := List.exists_cons_of_ne_nil some
  obtain ⟨c, cs, starts, same⟩ := first_char exact.1
  cases vs with
  | nil => rw [itemChars, starts, List.foldl_cons, List.foldl_cons, same]
  | cons w vs =>
    rw [itemChars, starts, List.cons_append, List.foldl_cons, List.foldl_cons, same]

theorem first_key {ms : List (String × Json)} (some : ms ≠ []) (frames : List Frame) :
    (memberChars ms).foldl step (.going frames .firstKey) =
      (memberChars ms).foldl step (.going frames .nextKey) := by
  obtain ⟨⟨k, v⟩, ms, rfl⟩ := List.exists_cons_of_ne_nil some
  cases ms <;> rfl

mutual

theorem scan_value : ∀ (v : Json) (frames : List Frame), v.Exact →
    (v.chars.foldl step (.going frames .value)).Alike (deliver frames v.reading)
  | .null, frames, _ => alike_refl (deliver frames .null)
  | .bool true, frames, _ => alike_refl (deliver frames (.bool true))
  | .bool false, frames, _ => alike_refl (deliver frames (.bool false))
  | .int _, frames, exact => scan_int frames exact
  | .float _, _, exact => exact.elim
  | .str s, frames, _ => by
    rw [chars, scan_string]
    exact alike_refl _
  | .arr items, frames, exact => by
    by_cases empty : items = []
    · subst empty
      exact alike_refl (deliver frames (.arr [] none))
    · have inside := scan_items items frames [] exact empty
      have opened : step (.going frames .value) '[' = .going (.arr [] :: frames) .firstItem := rfl
      rw [chars, List.foldl_cons, opened, List.foldl_append, first_item exact empty,
        List.foldl_cons, List.foldl_nil, inside.onward ']' (Or.inr (Or.inl rfl))]
      simp only [List.append_nil, step, stepMode, continueAfter, List.reverse_reverse]
      exact alike_refl _
  | .obj members, frames, exact => by
    by_cases empty : members = []
    · subst empty
      exact alike_refl (deliver frames (.obj [] none))
    · have inside := scan_members members frames [] exact empty
      have opened : step (.going frames .value) '\x7b' =
          .going (.awaiting [] :: frames) .firstKey := rfl
      rw [chars, List.foldl_cons, opened, List.foldl_append, first_key empty, List.foldl_cons,
        List.foldl_nil, inside.onward '\x7d' (Or.inr (Or.inr rfl))]
      simp only [List.append_nil, step, stepMode, Frame.awaiting, continueAfter,
        List.reverse_reverse]
      exact alike_refl _

theorem scan_items : ∀ (vs : List Json) (frames : List Frame) (done : List Reading),
    ExactItems vs → vs ≠ [] →
    ((itemChars vs).foldl step (.going (.arr done :: frames) .value)).Alike
      (.going (.arr ((itemReadings vs).reverse ++ done) :: frames) .after)
  | [], _, _, _, full => absurd rfl full
  | [v], frames, done, exact, _ => scan_value v (.arr done :: frames) exact.1
  | v :: w :: vs, frames, done, exact, _ => by
    have first := scan_value v (.arr done :: frames) exact.1
    have rest := scan_items (w :: vs) frames (v.reading :: done) exact.2 (List.cons_ne_nil w vs)
    have onward : step (deliver (.arr done :: frames) v.reading) ',' =
        .going (.arr (v.reading :: done) :: frames) .value := rfl
    rw [itemChars, List.foldl_append, List.foldl_cons, first.onward ',' (Or.inl rfl), onward]
    simpa [itemReadings] using rest

theorem scan_members : ∀ (ms : List (String × Json)) (frames : List Frame)
    (done : List (Key × Reading)), ExactMembers ms → ms ≠ [] →
    ((memberChars ms).foldl step (.going (.awaiting done :: frames) .nextKey)).Alike
      (.going (.awaiting ((memberReadings ms).reverse ++ done) :: frames) .after)
  | [], _, _, _, full => absurd rfl full
  | [(k, v)], frames, done, exact, _ => by
    have value := scan_value v (.obj done (.name k) :: frames) exact.1
    rw [memberChars, List.foldl_append, scan_key, List.foldl_cons]
    exact value
  | (k, v) :: m :: ms, frames, done, exact, _ => by
    have value := scan_value v (.obj done (.name k) :: frames) exact.1
    have rest := scan_members (m :: ms) frames ((.name k, v.reading) :: done) exact.2
      (List.cons_ne_nil m ms)
    have colon : step (.going (.obj done (.name k) :: frames) .colon) ':' =
        .going (.obj done (.name k) :: frames) .value := rfl
    have onward : step (deliver (.obj done (.name k) :: frames) v.reading) ',' =
        .going (.awaiting ((.name k, v.reading) :: done) :: frames) .nextKey := rfl
    rw [memberChars, List.foldl_append, scan_key, List.foldl_cons, colon, List.foldl_append,
      List.foldl_cons, value.onward ',' (Or.inl rfl), onward]
    simpa [memberReadings] using rest

end

end Scan

/-- A text is read as the value that it is written from. -/
theorem read_text {v : Json} (exact : v.Exact) : readText v.text = (v.reading, none) := by
  have scanned := (Scan.scan_value v [] exact).finish
  rw [readText, text, String.toList_ofList, readChars, scanned]
  rfl

theorem escape_line (c : Char) : '\n' ∉ escapeChar c := by
  have hex : ∀ d < 16, '\n' ≠ hexDigit d := by decide
  have high := hex (c.toNat / 16)
  have low := hex (c.toNat % 16) (by omega)
  unfold escapeChar
  split_ifs with quote slash backspace feed line return_ tab control
  · decide
  · decide
  · decide
  · decide
  · decide
  · decide
  · decide
  · simpa [low] using high (by omega)
  · simpa using Ne.symm line

theorem quoted_line (s : String) : '\n' ∉ quoted s := by
  simpa [quoted] using fun c _ => escape_line c

theorem digits_line (i : Int) : '\n' ∉ intDigits i := by
  have digits : '\n' ∉ natDigits i.natAbs := fun there => by
    have digit := natDigits_digits i.natAbs '\n' there
    cases digit
  unfold intDigits
  split
  · simpa using digits
  · exact digits

mutual

theorem chars_line : ∀ v : Json, v.Exact → '\n' ∉ v.chars
  | .null, _ => by decide
  | .bool true, _ => by decide
  | .bool false, _ => by decide
  | .int i, _ => digits_line i
  | .float _, exact => exact.elim
  | .str s, _ => quoted_line s
  | .arr items, exact => by
    have inside := itemChars_line items exact
    simpa [chars] using inside
  | .obj members, exact => by
    have inside := memberChars_line members exact
    simpa [chars] using inside

theorem itemChars_line : ∀ vs : List Json, ExactItems vs → '\n' ∉ itemChars vs
  | [], _ => List.not_mem_nil
  | [v], exact => chars_line v exact.1
  | v :: w :: vs, exact => by
    have first := chars_line v exact.1
    have rest := itemChars_line (w :: vs) exact.2
    simpa [itemChars, first] using rest

theorem memberChars_line : ∀ ms : List (String × Json), ExactMembers ms → '\n' ∉ memberChars ms
  | [], _ => List.not_mem_nil
  | [(k, v)], exact => by
    have value := chars_line v exact.1
    simpa [memberChars, quoted_line k] using value
  | (k, v) :: m :: ms, exact => by
    have value := chars_line v exact.1
    have rest := memberChars_line (m :: ms) exact.2
    simpa [memberChars, quoted_line k, value] using rest

end

end Json
end AlarmHistory
