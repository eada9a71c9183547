import AlarmHistory.Document.Encoding
import AlarmHistory.Proofs.Lookup

/- Values whose objects may have their members in any order. A value is said to read as something if
   it does in every order, and what is true of the fields of a record is put together here to what
   is true of the record. -/
namespace AlarmHistory.Json

mutual

/-- The same value, with the members of every object in some order. -/
inductive Reordered : Json → Json → Prop
  | same (v : Json) : Reordered v v
  | arr {vs ws : List Json} (items : ItemsReordered vs ws) : Reordered (.arr vs) (.arr ws)
  | obj {ms ns os : List (String × Json)} (members : MembersReordered ms ns)
      (shuffled : ns.Perm os) : Reordered (.obj ms) (.obj os)

inductive ItemsReordered : List Json → List Json → Prop
  | nil : ItemsReordered [] []
  | cons {v w : Json} {vs ws : List Json} (head : Reordered v w) (tail : ItemsReordered vs ws) :
      ItemsReordered (v :: vs) (w :: ws)

inductive MembersReordered : List (String × Json) → List (String × Json) → Prop
  | nil : MembersReordered [] []
  | cons {k : String} {v w : Json} {ms ns : List (String × Json)} (head : Reordered v w)
      (tail : MembersReordered ms ns) : MembersReordered ((k, v) :: ms) ((k, w) :: ns)

end

theorem members_same (ms : List (String × Json)) : MembersReordered ms ms := by
  induction ms with
  | nil => exact .nil
  | cons e ms ih => exact .cons (.same e.2) ih

theorem items_same (vs : List Json) : ItemsReordered vs vs := by
  induction vs with
  | nil => exact .nil
  | cons v vs ih => exact .cons (.same v) ih

theorem reordered_obj {ms : List (String × Json)} {w : Json} (reordered : Reordered (.obj ms) w) :
    ∃ ns os, w = .obj os ∧ MembersReordered ms ns ∧ ns.Perm os := by
  cases reordered with
  | same => exact ⟨ms, ms, rfl, members_same ms, List.Perm.refl ms⟩
  | obj members shuffled => exact ⟨_, _, rfl, members, shuffled⟩

theorem reordered_arr {vs : List Json} {w : Json} (reordered : Reordered (.arr vs) w) :
    ∃ ws, w = .arr ws ∧ ItemsReordered vs ws := by
  cases reordered with
  | same => exact ⟨vs, rfl, items_same vs⟩
  | arr items => exact ⟨_, rfl, items⟩

theorem members_names {ms ns : List (String × Json)} (members : MembersReordered ms ns) :
    ns.map Prod.fst = ms.map Prod.fst := by
  induction ms generalizing ns with
  | nil => cases members; rfl
  | cons e ms ih =>
    cases members with
    | cons head tail => simp [ih tail]

/-- A look-up in a reordered object finds a reordered value. -/
def Agrees (o : Option Json) (p : Option Json) : Prop :=
  match o, p with
  | none, none => True
  | some v, some w => Reordered v w
  | _, _ => False

theorem members_lookup {ms ns : List (String × Json)} (members : MembersReordered ms ns)
    (k : String) : Agrees (ms.lookup k) (ns.lookup k) := by
  induction ms generalizing ns with
  | nil => cases members; exact trivial
  | cons e ms ih =>
    cases members with
    | cons head tail =>
      rw [lookup_cons_if, lookup_cons_if]
      split
      · exact head
      · exact ih tail

theorem find_members (ms : List (String × Json)) (k : String) :
    Record.find (memberReadings ms) k = (ms.lookup k).map reading := by
  induction ms with
  | nil => rfl
  | cons e ms ih =>
    obtain ⟨l, v⟩ := e
    simp only [Record.find, memberReadings] at ih ⊢
    rw [lookup_cons_if, lookup_cons_if, ih]
    by_cases same : k = l
    · rw [if_pos same, if_pos (congrArg Key.name same)]
      rfl
    · rw [if_neg same, if_neg fun eq => same (Key.name.inj eq)]

mutual

theorem skip_reading : ∀ v : Json, v.reading.skip = .ok ()
  | .null | .bool _ | .int _ | .float _ | .str _ => rfl
  | .arr vs => by simp [reading, Reading.skip, skip_items vs, noFault, bind, Except.bind]
  | .obj ms => by simp [reading, Reading.skip, skip_members ms, noFault, bind, Except.bind]

theorem skip_items : ∀ vs : List Json, Reading.skipItems (itemReadings vs) = .ok ()
  | [] => rfl
  | v :: vs => by
    simp [itemReadings, Reading.skipItems, skip_reading v, skip_items vs, bind, Except.bind]

theorem skip_members : ∀ ms : List (String × Json), Reading.skipMembers (memberReadings ms) = .ok ()
  | [] => rfl
  | (_, v) :: ms => by
    simp [memberReadings, Reading.skipMembers, skip_reading v, skip_members ms, bind, Except.bind]

end

section Reads
variable {α β : Type}

/-- The value is decoded to `a`, whatever the order of its members. -/
def Reads (dec : Decoder α) (v : Json) (a : α) : Prop := ∀ w, Reordered v w → dec w.reading = .ok a

theorem reads_string (s : String) : Reads Decoder.string (.str s) s := by
  intro w reordered
  cases reordered
  rfl

theorem reads_bool (b : Bool) : Reads Decoder.bool (.bool b) b := by
  intro w reordered
  cases reordered
  rfl

theorem reads_int32 (i : Int32) : Reads Decoder.int32 (int32Json i) i := by
  intro w reordered
  cases reordered
  have within : Decoder.integer Int32.minValue.toInt Int32.maxValue.toInt (.int i.toInt) =
      .ok i.toInt := if_pos ⟨Int32.minValue_le_toInt i, Int32.toInt_le i⟩
  simp only [int32Json, reading, Decoder.int32, within, Except.map, Int32.ofInt_toInt]

theorem reads_int64 (i : Int64) : Reads Decoder.int64 (int64Json i) i := by
  intro w reordered
  cases reordered
  have within : Decoder.integer Int64.minValue.toInt Int64.maxValue.toInt (.int i.toInt) =
      .ok i.toInt := if_pos ⟨Int64.minValue_le_toInt i, Int64.toInt_le i⟩
  simp only [int64Json, reading, Decoder.int64, within, Except.map, Int64.ofInt_toInt]

theorem reads_null (dec : Decoder α) : Reads (Decoder.nullable dec) .null none := by
  intro w reordered
  cases reordered
  rfl

theorem reads_some {dec : Decoder α} {v : Json} {a : α} (reads : Reads dec v a) (full : v ≠ .null) :
    Reads (Decoder.nullable dec) v (some a) := by
  intro w reordered
  have given := reads w reordered
  cases w with
  | null =>
    cases reordered
    exact absurd rfl full
  | _ =>
    simp only [reading] at given
    simp only [reading, Decoder.nullable, given, Except.map]

theorem reads_list {dec : Decoder α} {vs : List Json} {as : List α}
    (each : List.Forall₂ (Reads dec) vs as) : Reads (Decoder.list dec) (.arr vs) as := by
  intro w reordered
  obtain ⟨ws, rfl, items⟩ := reordered_arr reordered
  have all : Decoder.items dec (itemReadings ws) = .ok as := by
    clear reordered
    induction each generalizing ws with
    | nil => cases items; rfl
    | cons first _ ih =>
      cases items with
      | cons head tail =>
        simp [itemReadings, Decoder.items, first _ head, ih _ tail, bind, Except.bind, pure,
          Except.pure]
  simp [reading, Decoder.list, all, noFault, bind, Except.bind, pure, Except.pure]

theorem reads_map {dec : Decoder α} {f : α → Json} (each : ∀ a, Reads dec (f a) a) (as : List α) :
    Reads (Decoder.list dec) (.arr (as.map f)) as :=
  reads_list (List.forall₂_map_left_iff.mpr (List.forall₂_same.mpr fun a _ => each a))

theorem reads_optional {dec : Decoder α} {f : α → Json} (each : ∀ a, Reads dec (f a) a)
    (full : ∀ a, f a ≠ .null) (o : Option α) : Reads (Decoder.nullable dec) (optional f o) o := by
  cases o with
  | none => exact reads_null dec
  | some a => exact reads_some (each a) (full a)

theorem reads_edit {dec : Decoder α} {v : Json} {o : Option α}
    (reads : Reads (Decoder.nullable dec) v o) : Reads (Edit.decoder dec) v (Edit.ofOption o) := by
  intro w reordered
  simp only [Edit.decoder, reads w reordered, Except.map]

end Reads

/-- The record is built from any members that agree with these, and each of them passes. -/
structure Record.Reads {α : Type} (r : Record α) (get : String → Option Json) (a : α) : Prop where
  builds : ∀ shown : String → Option Json, (∀ k, Agrees (get k) (shown k)) →
    r.ofMembers (fun k => (shown k).map reading) = .ok a
  passes : ∀ k v w check, get k = some v → Reordered v w → r.check k = some check →
    check w.reading = .ok ()

section Fields
variable {α β : Type} {get : String → Option Json}

theorem pure_reads (a : α) : (Record.pure a).Reads get a where
  builds _ _ := rfl
  passes _ _ _ _ _ _ known := by cases known

variable {r : Record (β → α)} {f : β → α} (reads : r.Reads get f) {name : String} {dec : Decoder β}
include reads

theorem field_present {v : Json} {b : β} (there : get name = some v) (value : Reads dec v b)
    (absence : Absence β) : (r.field name dec absence).Reads get (f b) where
  builds shown agree := by
    have here := agree name
    rw [there] at here
    cases found : shown name with
    | none =>
      rw [found] at here
      exact here.elim
    | some w =>
      rw [found] at here
      simp [Record.field, reads.builds shown agree, found, value w here, bind, Except.bind, pure,
        Except.pure]
  passes k u w check given reordered known := by
    simp only [Record.field] at known
    split at known
    · rename_i same
      rw [same, there, Option.some.injEq] at given
      rw [Option.some.injEq] at known
      have decoded := value w (given ▸ reordered)
      rw [← known]
      simp only [decoded, Except.map]
    · exact reads.passes k u w check given reordered known

theorem field_absent (missing : get name = none) {b : β} {absence : Absence β}
    (means : absence = .missing b ∨ absence = .absent b) :
    (r.field name dec absence).Reads get (f b) where
  builds shown agree := by
    have here := agree name
    rw [missing] at here
    cases found : shown name with
    | none =>
      rcases means with rfl | rfl <;>
        simp [Record.field, reads.builds shown agree, found, bind, Except.bind, pure, Except.pure]
    | some w =>
      rw [found] at here
      exact here.elim
  passes k u w check given reordered known := by
    simp only [Record.field] at known
    split at known
    · rename_i same
      rw [same, missing] at given
      cases given
    · exact reads.passes k u w check given reordered known

end Fields

section Records
variable {α β : Type} {get : String → Option Json}

theorem both_reads {r : Record α} {s : Record β} {a : α} {b : β} (first : r.Reads get a)
    (second : s.Reads get b) : (r.both s).Reads get (a, b) where
  builds shown agree := by
    simp [Record.both, first.builds shown agree, second.builds shown agree, bind, Except.bind, pure,
      Except.pure]
  passes k v w check given reordered known := by
    rcases Option.or_eq_some_iff.mp known with one | ⟨_, two⟩
    · exact first.passes k v w check given reordered one
    · exact second.passes k v w check given reordered two

theorem map_reads {r : Record α} {a : α} (reads : r.Reads get a) (g : α → β) :
    (r.map g).Reads get (g a) where
  builds shown agree := by
    simp only [Record.map, reads.builds shown agree, Except.map]
  passes := reads.passes

theorem scan_members {r : Record α} (os : List (String × Json)) (seen : List String)
    (distinct : DistinctKeys os) (fresh : ∀ e ∈ os, e.1 ∉ seen)
    (passes : ∀ e ∈ os, ∀ check, r.check e.1 = some check → check e.2.reading = .ok ()) :
    r.scan seen (memberReadings os) = .ok () := by
  induction os generalizing seen with
  | nil => rfl
  | cons e os ih =>
    obtain ⟨k, v⟩ := e
    obtain ⟨once, rest⟩ := List.nodup_cons.mp distinct
    have later := fun e member => passes e (List.mem_cons_of_mem (k, v) member)
    simp only [memberReadings, Record.scan]
    cases known : r.check k with
    | none =>
      simp only [skip_reading, bind, Except.bind]
      exact ih seen rest (fun e member => fresh e (List.mem_cons_of_mem _ member)) later
    | some check =>
      have unseen : k ∉ seen := fresh (k, v) List.mem_cons_self
      have passed := passes (k, v) List.mem_cons_self check known
      simp only [unseen, if_false, passed, bind, Except.bind]
      refine ih (k :: seen) rest (fun e member => ?_) later
      intro inside
      rcases List.mem_cons.mp inside with same | before
      · exact once (List.mem_map.mpr ⟨e, member, same⟩)
      · exact fresh e (List.mem_cons_of_mem _ member) before

theorem record_reads {r : Record α} {ms : List (String × Json)} {a : α} (distinct : DistinctKeys ms)
    (reads : r.Reads (fun k => ms.lookup k) a) : Reads r.decoder (.obj ms) a := by
  intro w reordered
  obtain ⟨ns, os, rfl, members, shuffled⟩ := reordered_obj reordered
  have distinct' : DistinctKeys ns := by rwa [DistinctKeys, members_names members]
  have agree : ∀ k, Agrees (ms.lookup k) (os.lookup k) := by
    intro k
    rw [← lookup_perm distinct' shuffled]
    exact members_lookup members k
  have distinct'' : DistinctKeys os := (shuffled.map Prod.fst).nodup_iff.mp distinct'
  have scanned : r.scan [] (memberReadings os) = .ok () := by
    refine scan_members os [] distinct'' (fun _ _ => List.not_mem_nil) ?_
    intro e member check known
    have here := agree e.1
    rw [lookup_of_member distinct'' member] at here
    cases given : ms.lookup e.1 with
    | none =>
      rw [given] at here
      exact here.elim
    | some v =>
      rw [given] at here
      exact reads.passes e.1 v e.2 check given here known
  have found : Record.find (memberReadings os) = fun k => (os.lookup k).map reading :=
    funext (find_members os)
  simp only [reading, Record.decoder, scanned, noFault, found, bind, Except.bind]
  exact reads.builds (fun k => os.lookup k) agree

end Records

end AlarmHistory.Json
