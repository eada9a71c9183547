import AlarmHistory.Index.Name
import AlarmHistory.Proofs.Index.Calendar
import AlarmHistory.Proofs.Json.RoundTrip
import Mathlib.Order.Basic

/- Index names against the calendar: one name for each bucket of hours, and while years have four
   digits the names are in the order of the buckets. -/
namespace AlarmHistory

section Lists
variable {α : Type} [LT α]

theorem append_lt_iff {xs ys : List α} (length : xs.length = ys.length) (as bs : List α) :
    xs ++ as < ys ++ bs ↔ xs < ys ∨ xs = ys ∧ as < bs := by
  induction xs generalizing ys with
  | nil =>
    obtain rfl := List.eq_nil_of_length_eq_zero length.symm
    simp
  | cons x xs ih =>
    cases ys with
    | nil => simp at length
    | cons y ys =>
      simp only [List.cons_append, List.cons_lt_cons_iff, ih (Nat.succ.inj length), List.cons.injEq]
      rw [and_or_left, or_assoc, and_assoc]

theorem lt_of_take_lt {xs ys : List α} {n : Nat} (less : xs.take n < ys.take n) : xs < ys := by
  induction n generalizing xs ys with
  | zero => simp at less
  | succ n ih =>
    cases ys with
    | nil => simp at less
    | cons y ys =>
      cases xs with
      | nil => exact List.nil_lt_cons y ys
      | cons x xs =>
        simp only [List.take_succ_cons, List.cons_lt_cons_iff] at less ⊢
        exact less.imp_right fun ⟨same, rest⟩ => ⟨same, ih rest⟩

end Lists

namespace Decimal

theorem digit_injective {m n : Nat} (small : m < 10) (small' : n < 10) :
    digitChar m = digitChar n ↔ m = n := by
  have all : ∀ m < 10, ∀ n < 10, digitChar m = digitChar n ↔ m = n := by decide
  exact all m small n small'

theorem digit_lt_iff {m n : Nat} (small : m < 10) (small' : n < 10) :
    digitChar m < digitChar n ↔ m < n := by
  have all : ∀ m < 10, ∀ n < 10, digitChar m < digitChar n ↔ m < n := by decide
  exact all m small n small'

theorem padded_one {n : Nat} (small : n < 10) : padded 1 n = [digitChar n] := by
  simp [padded, natDigits_small small]

theorem padded_succ (width n : Nat) :
    padded (width + 2) n = padded (width + 1) (n / 10) ++ [digitChar (n % 10)] := by
  unfold padded
  by_cases small : n < 10
  · have zero : digitChar 0 = '0' := rfl
    rw [natDigits_small small, Nat.div_eq_of_lt small, Nat.mod_eq_of_lt small,
      natDigits_small (by decide : 0 < 10), zero, ← List.replicate_succ']
    simp
  · simp [natDigits_large small]

theorem padded_length (width : Nat) {n : Nat} (fits : n < 10 ^ (width + 1)) :
    (padded (width + 1) n).length = width + 1 := by
  induction width generalizing n with
  | zero => rw [padded_one fits, List.length_singleton]
  | succ width ih =>
    rw [padded_succ, List.length_append, List.length_singleton, ih (by omega)]

theorem padded_lt_iff (width : Nat) {m n : Nat} (fits : m < 10 ^ (width + 1))
    (fits' : n < 10 ^ (width + 1)) :
    (padded (width + 1) m < padded (width + 1) n ↔ m < n) ∧
      (padded (width + 1) m = padded (width + 1) n ↔ m = n) := by
  induction width generalizing m n with
  | zero =>
    rw [padded_one fits, padded_one fits', List.cons_lt_cons_iff]
    simp [digit_lt_iff fits fits', digit_injective fits fits']
  | succ width ih =>
    obtain ⟨less, same⟩ := ih (m := m / 10) (n := n / 10) (by omega) (by omega)
    have last : m % 10 < 10 := Nat.mod_lt m (by decide)
    have last' : n % 10 < 10 := Nat.mod_lt n (by decide)
    have lengths := (padded_length width (n := m / 10) (by omega)).trans
      (padded_length width (n := n / 10) (by omega)).symm
    rw [padded_succ, padded_succ, append_lt_iff lengths, less, same, List.append_singleton_inj, same,
      digit_injective last last']
    simp only [List.cons_lt_cons_iff, digit_lt_iff last last', List.lt_irrefl, and_false, or_false]
    omega

/-- Numbers of two digits, each with a dash before it. -/
def dashed (ns : List Nat) : List Char := ns.flatMap fun n => '-' :: padded 2 n

theorem dashed_cons (n : Nat) (ns : List Nat) :
    dashed (n :: ns) = ('-' :: padded 2 n) ++ dashed ns := rfl

theorem dash_length {n : Nat} (small : n < 100) : ('-' :: padded 2 n).length = 3 := by
  rw [List.length_cons, padded_length 1 small]

theorem dashed_length {ns : List Nat} (fit : ∀ n ∈ ns, n < 100) :
    (dashed ns).length = 3 * ns.length := by
  induction ns with
  | nil => rfl
  | cons n ns ih =>
    obtain ⟨small, fit⟩ := List.forall_mem_cons.mp fit
    rw [dashed_cons, List.length_append, dash_length small, ih fit, List.length_cons]
    omega

theorem dashed_lt_iff {ms ns : List Nat} (length : ms.length = ns.length) (fit : ∀ m ∈ ms, m < 100)
    (fit' : ∀ n ∈ ns, n < 100) :
    (dashed ms < dashed ns ↔ ms < ns) ∧ (dashed ms = dashed ns ↔ ms = ns) := by
  induction ms generalizing ns with
  | nil =>
    obtain rfl := List.eq_nil_of_length_eq_zero length.symm
    simp
  | cons m ms ih =>
    cases ns with
    | nil => simp at length
    | cons n ns =>
      obtain ⟨small, fit⟩ := List.forall_mem_cons.mp fit
      obtain ⟨small', fit'⟩ := List.forall_mem_cons.mp fit'
      obtain ⟨less, same⟩ := ih (Nat.succ.inj length) fit fit'
      obtain ⟨first_less, first_same⟩ := padded_lt_iff 1 small small'
      have lengths := (dash_length small).trans (dash_length small').symm
      rw [dashed_cons, dashed_cons]
      constructor
      · rw [append_lt_iff lengths, less, List.cons_lt_cons_iff, first_less, List.cons_lt_cons_iff,
          List.cons.injEq, first_same]
        simp
      · rw [List.cons.injEq, ← same, ← first_same]
        constructor
        · intro whole
          obtain ⟨head, tail⟩ := List.append_inj whole lengths
          exact ⟨(List.cons.inj head).2, tail⟩
        · rintro ⟨head, tail⟩
          rw [head, tail]

theorem ofDigits_padded (width n : Nat) : ofDigits (padded width n) = n := by
  have zeros : ∀ k, ofDigits (List.replicate k '0' ++ natDigits n) = ofDigits (natDigits n) := by
    intro k
    induction k with
    | zero => rfl
    | succ k ih => exact ih
  exact (zeros _).trans (ofDigits_natDigits n)

theorem padded_digits (width n : Nat) : ∀ c ∈ padded width n, (digitValue? c).isSome := by
  intro c member
  rcases List.mem_append.mp member with zero | digit
  · rw [(List.mem_replicate.mp zero).2]
    rfl
  · exact natDigits_digits n c digit

end Decimal

namespace Granularity
open Calendar Decimal

/-- How many of month, day and hour a name shows. -/
def depth : Granularity → Nat
  | yearly => 0
  | monthly => 1
  | daily => 2
  | hourly => 3

/-- The fields that all hours of a bucket have in common. -/
def bucket (g : Granularity) (h : Hour) : List Int := h.fields.take (g.depth + 1)

def parts (g : Granularity) (h : Hour) : List Nat := [h.month, h.day, h.hour].take g.depth

theorem bucketDigits_eq (g : Granularity) (h : Hour) :
    g.bucketDigits h = yearDigits h.year ++ dashed (g.parts h) := by
  cases g <;> simp [bucketDigits, parts, depth, dashed]

section Buckets
variable (g : Granularity) (h k : Hour)

theorem bucket_eq_iff : g.bucket h = g.bucket k ↔ h.year = k.year ∧ g.parts h = g.parts k := by
  cases g <;> simp only [bucket, parts, depth, Hour.fields, List.take_succ_cons, List.take_zero,
    List.cons.injEq, Int.natCast_inj, and_true]

theorem bucket_lt_iff : g.bucket h < g.bucket k ↔
    h.year < k.year ∨ h.year = k.year ∧ g.parts h < g.parts k := by
  cases g <;> simp only [bucket, parts, depth, Hour.fields, List.take_succ_cons, List.take_zero,
    List.cons_lt_cons_iff, Int.natCast_inj, Int.ofNat_lt, List.lt_irrefl, and_false, or_false]

theorem parts_length : (g.parts h).length = (g.parts k).length := by
  simp [parts]

end Buckets

def readYear : List Char → Int
  | [] => 0
  | c :: ds => if c = '-' then -ofDigits ds else if c = '+' then ofDigits ds else ofDigits (c :: ds)

theorem readYear_digits (year : Int) : readYear (yearDigits year) = year := by
  unfold yearDigits
  split
  · rename_i negative
    rw [readYear, if_pos rfl, ofDigits_padded]
    omega
  · split
    · rename_i large
      rw [readYear, if_neg (by decide), if_pos rfl, ofDigits_padded]
      omega
    · have value := ofDigits_padded 4 year.natAbs
      have digits := padded_digits 4 year.natAbs
      cases shown : padded 4 year.natAbs with
      | nil =>
        rw [shown] at value
        change 0 = _ at value
        rw [readYear]
        omega
      | cons c ds =>
        rw [shown] at value digits
        have digit := digits c List.mem_cons_self
        have unsigned : c ≠ '-' ∧ c ≠ '+' := by
          constructor <;> rintro rfl <;> exact absurd digit (by decide)
        rw [readYear, if_neg unsigned.1, if_neg unsigned.2, value]
        omega

theorem yearDigits_injective {year other : Int} (same : yearDigits year = yearDigits other) :
    year = other := by
  rw [← readYear_digits year, ← readYear_digits other, same]

theorem yearDigits_lt_iff {year other : Int} (first : 0 ≤ year ∧ year ≤ 9999)
    (second : 0 ≤ other ∧ other ≤ 9999) :
    (yearDigits year).length = (yearDigits other).length ∧
      (yearDigits year < yearDigits other ↔ year < other) := by
  have four : ∀ y : Int, 0 ≤ y ∧ y ≤ 9999 → yearDigits y = padded 4 y.natAbs := by
    intro y inside
    rw [yearDigits, if_neg (by omega), if_neg (by omega)]
  rw [four year first, four other second, (padded_lt_iff 3 (by omega) (by omega)).1,
    padded_length 3 (by omega), padded_length 3 (by omega)]
  omega

theorem parts_fit (g : Granularity) {h : Hour} (valid : h.Valid) : ∀ n ∈ g.parts h, n < 100 := by
  obtain ⟨⟨_, month⟩, ⟨_, day⟩, hour⟩ := valid
  have month_days := (monthLength_bounds h.leap h.month).2
  rw [Hour.lastDay] at day
  intro n member
  have one : n = h.month ∨ n = h.day ∨ n = h.hour := by
    simpa using List.mem_of_mem_take member
  omega

section Names
variable (g : Granularity) {h k : Hour} (first : h.Valid) (second : k.Valid)
include first second

theorem bucketDigits_eq_iff : g.bucketDigits h = g.bucketDigits k ↔ g.bucket h = g.bucket k := by
  obtain ⟨_, same⟩ := dashed_lt_iff (g.parts_length h k) (g.parts_fit first) (g.parts_fit second)
  rw [bucketDigits_eq, bucketDigits_eq, bucket_eq_iff]
  constructor
  · intro whole
    have lengths : (dashed (g.parts h)).length = (dashed (g.parts k)).length := by
      rw [dashed_length (g.parts_fit first), dashed_length (g.parts_fit second), g.parts_length h k]
    obtain ⟨years, rest⟩ := List.append_inj' whole lengths
    exact ⟨yearDigits_injective years, same.mp rest⟩
  · rintro ⟨years, rest⟩
    rw [years, rest]

theorem bucketDigits_lt_iff (year : 0 ≤ h.year ∧ h.year ≤ 9999)
    (year' : 0 ≤ k.year ∧ k.year ≤ 9999) :
    g.bucketDigits h < g.bucketDigits k ↔ g.bucket h < g.bucket k := by
  obtain ⟨less, _⟩ := dashed_lt_iff (g.parts_length h k) (g.parts_fit first) (g.parts_fit second)
  obtain ⟨lengths, years⟩ := yearDigits_lt_iff year year'
  have one_year : yearDigits h.year = yearDigits k.year ↔ h.year = k.year :=
    ⟨yearDigits_injective, congrArg yearDigits⟩
  rw [bucketDigits_eq, bucketDigits_eq, append_lt_iff lengths, less, years, one_year, bucket_lt_iff]

theorem bucket_ordered (order : h.number ≤ k.number) : ¬ g.bucket k < g.bucket h := by
  intro earlier
  have before := second.number_lt first (lt_of_take_lt earlier)
  omega

end Names

theorem indexFor_eq_iff (g : Granularity) (indexPrefix : String) (t u : Int64) :
    g.indexFor indexPrefix t = g.indexFor indexPrefix u ↔
      g.bucketDigits (hourFor t) = g.bucketDigits (hourFor u) := by
  simp [indexFor, String.ofList_inj]

theorem indexFor_lt_iff (g : Granularity) (indexPrefix : String) (t u : Int64) :
    g.indexFor indexPrefix t < g.indexFor indexPrefix u ↔
      g.bucketDigits (hourFor t) < g.bucketDigits (hourFor u) := by
  rw [String.lt_iff, indexFor, indexFor, String.toList_ofList, String.toList_ofList,
    append_lt_iff rfl, List.cons_lt_cons_iff]
  simp only [List.lt_irrefl, Char.lt_irrefl, false_or, true_and]

/-- Times share an index exactly if they fall in one bucket of the calendar, and while years have four
    digits the names are in the order of the buckets. -/
theorem index_names_follow_calendar {hours : Int → Hour} (calendar : Gregorian hours)
    (g : Granularity) (indexPrefix : String) {t u : Int64}
    (known : Calendar.holds t.toInt = true) (known' : Calendar.holds u.toInt = true) :
    let h := hours (t.toInt / msPerHour)
    let k := hours (u.toInt / msPerHour)
    (g.indexFor indexPrefix t = g.indexFor indexPrefix u ↔ g.bucket h = g.bucket k) ∧
      (0 ≤ h.year ∧ h.year ≤ 9999 → 0 ≤ k.year ∧ k.year ≤ 9999 →
        (g.indexFor indexPrefix t < g.indexFor indexPrefix u ↔ g.bucket h < g.bucket k) ∧
        (t ≤ u → g.indexFor indexPrefix t ≤ g.indexFor indexPrefix u)) := by
  have here : hourFor t = hours (t.toInt / msPerHour) := by
    rw [hourFor, if_pos known, calendar.hours_eq]
  have there : hourFor u = hours (u.toInt / msPerHour) := by
    rw [hourFor, if_pos known', calendar.hours_eq]
  have first := calendar.valid (t.toInt / msPerHour)
  have second := calendar.valid (u.toInt / msPerHour)
  simp only [indexFor_eq_iff, indexFor_lt_iff, here, there]
  refine ⟨g.bucketDigits_eq_iff first second, fun year year' => ⟨?_, fun order => ?_⟩⟩
  · exact g.bucketDigits_lt_iff first second year year'
  · refine Std.not_lt.mp ?_
    rw [indexFor_lt_iff, here, there, g.bucketDigits_lt_iff second first year' year]
    refine g.bucket_ordered first second ?_
    rw [calendar.number_eq, calendar.number_eq]
    exact Int.ediv_le_ediv (by decide) (Int64.le_iff_toInt_le.mp order)

theorem leap_day_of_1600_apart :
    let hours := fun n : Int => hourOf (n * msPerHour)
    let t : Int64 := -11670912000001
    let u : Int64 := -11670912000000
    Gregorian hours ∧ Calendar.holds t.toInt = true ∧ Calendar.holds u.toInt = true ∧
      hours (t.toInt / msPerHour) = ⟨1600, 2, 29, 23⟩ ∧
      hours (u.toInt / msPerHour) = ⟨1600, 3, 1, 0⟩ ∧
      monthly.indexFor "a" t = "a-1600-02" ∧ monthly.indexFor "a" u = "a-1600-03" ∧
      monthly.indexFor "a" t ≠ monthly.indexFor "a" u ∧
      monthly.indexFor "a" t < monthly.indexFor "a" u := by
  intro hours t u
  have known : Calendar.holds t.toInt = true := by decide
  have known' : Calendar.holds u.toInt = true := by decide
  obtain ⟨same, ordered⟩ := index_names_follow_calendar gregorian_hours monthly "a" known known'
  refine ⟨gregorian_hours, known, known', by decide, by decide, by decide +kernel,
    by decide +kernel, ?_, ?_⟩
  · exact mt same.mp (by decide)
  · exact (ordered (by decide) (by decide)).1.mpr (by decide)

end Granularity
end AlarmHistory
