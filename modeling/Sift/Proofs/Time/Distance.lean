import Sift.Proofs.Time.Epoch
import Sift.Proofs.Time.Span

/-!
# Distances in seconds

A distance is a number and the name of a unit with a blank between, and it may have a sign in front or
`ago` behind. Such a text is taken apart where its characters change their class (`distance?_text`), and
no other form claims it (`form?_of_distance?`). A unit of fixed length, of which there are those listed
and no others (`mem_fixedUnits`), moves the clock by so many seconds, and the answer is the number of
seconds that the clock shows then, or zero when that is not in the calendar, be it only because the
number is too long to be read (`awayFrom?_seconds`). So all that counts of a distance is its length in
seconds (`timestamp_distance`).
-/

namespace Sift.DateExpr

open Text Shorthand

/-- The names of the units of fixed length, with their seconds. -/
def fixedUnits : List (String × Int) :=
  [("sec", 1), ("secs", 1), ("second", 1), ("seconds", 1),
   ("min", 60), ("mins", 60), ("minute", 60), ("minutes", 60),
   ("hour", 3600), ("hours", 3600),
   ("day", 86400), ("days", 86400),
   ("week", 604800), ("weeks", 604800),
   ("fortnight", 1209600), ("fortnights", 1209600)]

/-- The seconds of a unit of fixed length. -/
def TimeUnit.seconds? : TimeUnit → Option Int
  | second => some 1
  | minute => some 60
  | hour => some 3600
  | day => some 86400
  | week => some 604800
  | fortnight => some 1209600
  | month | year => none

theorem unit?_fixed :
    ∀ u ∈ fixedUnits, (unit? u.1).bind TimeUnit.seconds? = some u.2 ∧ 1 ≤ u.2 := by decide

theorem name_fixed : ∀ u ∈ fixedUnits, u.1.toList ≠ [] ∧ u.1.toList.all isUnitLetter = true := by
  decide

theorem mem_fixedUnits {name : String} {unit : TimeUnit} {length : Int} (h : unit? name = some unit)
    (hlength : unit.seconds? = some length) : (name, length) ∈ fixedUnits := by
  unfold unit? at h
  split at h
  all_goals cases h
  all_goals cases hlength
  all_goals decide

theorem span_fixed {unit : TimeUnit} {length : Int} (h : unit.seconds? = some length) (n : Int) :
    (unit.span n).years = 0 ∧ (unit.span n).months = 0 ∧ (unit.span n).fixedSeconds = n * length := by
  cases unit with
  | month | year => cases h
  | second | minute | hour | day | week | fortnight =>
    obtain rfl := Option.some.inj h
    refine ⟨rfl, rfl, ?_⟩
    simp only [TimeUnit.span, Span.none, Span.fixedSeconds]
    omega

variable {almanac : Almanac} {reference : Moment} {digits name behind : List Char} {unit : TimeUnit}

/-! ## Texts of distances -/

theorem takeWhile_append {p : Char → Bool} {cs ds : List Char} (hcs : ∀ c ∈ cs, p c = true)
    (hds : ∀ c ∈ ds.head?, p c = false) :
    (cs ++ ds).takeWhile p = cs ∧ (cs ++ ds).dropWhile p = ds := by
  rw [List.takeWhile_append_of_pos hcs, List.dropWhile_append_of_pos hcs, dropWhile_eq_self hds]
  refine ⟨?_, rfl⟩
  cases ds with
  | nil => simp
  | cons d ds => rw [List.takeWhile_cons_of_neg (by simp [hds d rfl]), List.append_nil]

/-- The text of a distance: a sign or none, digits, a blank, a name and what stands behind. -/
def distanceText (sign : Option Bool) (digits name behind : List Char) : List Char :=
  let body := digits ++ ' ' :: (name ++ behind)
  match sign with
  | none => body
  | some negative => (if negative then '-' else '+') :: body

theorem distance?_text (sign : Option Bool) (hascii : ∀ c ∈ digits, c.isDigit = true)
    (hsome : digits ≠ []) (hunit : unit? (String.ofList name) = some unit) (hne : name ≠ [])
    (hname : ∀ c ∈ name, isUnitLetter c = true)
    (hbehind : ∀ c ∈ behind.head?, isUnitLetter c = false) :
    distance? almanac (distanceText sign digits name behind) reference =
      if behind.isEmpty then some (awayFrom? almanac reference unit (sign == some true) digits)
      else if sign.isNone && behind.head?.any isBlank && behind.dropWhile isBlank == "ago".toList then
        some (awayFrom? almanac reference unit true digits)
      else none := by
  have hdigit : ∀ c ∈ digits, isDigit c = true := fun c hc => isDigit_of_ascii (hascii c hc)
  have hgap : ∀ c ∈ (' ' :: (name ++ behind)).head?, isDigit c = false := by
    rintro c ⟨⟩
    decide
  obtain ⟨htake, hdrop⟩ := takeWhile_append hdigit hgap
  obtain ⟨hletters, hrest⟩ := takeWhile_append hname hbehind
  have hnamed : (' ' :: (name ++ behind)).dropWhile isBlank = name ++ behind := by
    rw [List.dropWhile_cons_of_pos (by decide)]
    refine dropWhile_eq_self fun c hc => (plain_of_isUnitLetter (hname c ?_)).2.1
    obtain ⟨d, ds, rfl⟩ := List.exists_cons_of_ne_nil hne
    exact Option.some.inj hc ▸ List.mem_cons_self
  obtain ⟨d, ds, rfl⟩ := List.exists_cons_of_ne_nil hsome
  have hd := hdigit d List.mem_cons_self
  have hblank := (plain_of_isDigit (hascii d List.mem_cons_self)).2
  have hstart : (d :: ds ++ ' ' :: (name ++ behind)).dropWhile isBlank =
      d :: ds ++ ' ' :: (name ++ behind) := by
    refine dropWhile_eq_self fun c hc => ?_
    obtain rfl := Option.some.inj hc
    exact hblank
  unfold distance?
  split
  rename_i sign' body heq
  obtain ⟨rfl, rfl⟩ : sign' = sign ∧ body = d :: ds ++ ' ' :: (name ++ behind) := by
    cases sign with
    | some negative =>
      cases negative with
      | true =>
        obtain ⟨rfl, rfl⟩ := Prod.mk.inj heq
        exact ⟨rfl, hstart⟩
      | false =>
        obtain ⟨rfl, rfl⟩ := Prod.mk.inj heq
        exact ⟨rfl, hstart⟩
    | none =>
      -- A digit is no sign.
      split at heq
      · rename_i hplus
        exact absurd (List.cons.inj hplus).1 (ne_of_isDigit hd (by decide))
      · rename_i hminus
        exact absurd (List.cons.inj hminus).1 (ne_of_isDigit hd (by decide))
      · obtain ⟨rfl, rfl⟩ := Prod.mk.inj heq
        exact ⟨rfl, rfl⟩
  simp only [htake, hdrop, hnamed, hletters, hrest, hunit]
  rfl

theorem mem_distanceText {sign : Option Bool} {c : Char}
    (h : c ∈ distanceText sign digits name behind) :
    c ∈ ['+', '-', ' '] ∨ c ∈ digits ∨ c ∈ name ∨ c ∈ behind := by
  have hbody : c ∈ digits ++ ' ' :: (name ++ behind) →
      c ∈ ['+', '-', ' '] ∨ c ∈ digits ∨ c ∈ name ∨ c ∈ behind := by
    simp only [List.mem_append, List.mem_cons]
    rintro (hdigits | rfl | hname | hbehind)
    · exact .inr (.inl hdigits)
    · exact .inl (by simp)
    · exact .inr (.inr (.inl hname))
    · exact .inr (.inr (.inr hbehind))
  cases sign with
  | none => exact hbody h
  | some negative =>
    rcases List.mem_cons.mp h with rfl | h
    · refine .inl ?_
      cases negative <;> simp
    · exact hbody h

theorem head?_distanceText {sign : Option Bool} {c : Char} (hsome : digits ≠ [])
    (h : c ∈ (distanceText sign digits name behind).head?) : c ∈ digits ∨ c = '+' ∨ c = '-' := by
  obtain ⟨d, ds, rfl⟩ := List.exists_cons_of_ne_nil hsome
  cases sign with
  | none => exact .inl (Option.some.inj h ▸ List.mem_cons_self)
  | some negative =>
    obtain rfl := Option.some.inj h
    cases negative <;> simp

theorem getLast?_distanceText (sign : Option Bool) (hne : name ≠ []) :
    (distanceText sign digits name behind).getLast? = (name ++ behind).getLast? := by
  obtain ⟨front, hfront⟩ :
      ∃ front, distanceText sign digits name behind = front ++ (name ++ behind) := by
    cases sign with
    | none => exact ⟨digits ++ [' '], by simp [distanceText]⟩
    | some negative =>
      exact ⟨(if negative then '-' else '+') :: (digits ++ [' ']), by simp [distanceText]⟩
  rw [hfront, List.getLast?_append]
  cases hlast : (name ++ behind).getLast? with
  | none => simp [hne] at hlast
  | some c => rfl

/-- What stands behind a distance: nothing, or `ago` if it has no sign, which turns it back. -/
def Turns (sign : Option Bool) (behind : List Char) (back : Bool) : Prop :=
  behind = [] ∧ back = (sign == some true) ∨ sign = none ∧ behind = " ago".toList ∧ back = true

theorem distance?_turns {sign : Option Bool} {back : Bool} (hturns : Turns sign behind back)
    (hascii : ∀ c ∈ digits, c.isDigit = true) (hsome : digits ≠ [])
    (hunit : unit? (String.ofList name) = some unit) (hne : name ≠ [])
    (hname : ∀ c ∈ name, isUnitLetter c = true) :
    distance? almanac (distanceText sign digits name behind) reference =
      some (awayFrom? almanac reference unit back digits) := by
  have hbehind : ∀ c ∈ behind.head?, isUnitLetter c = false := by
    rcases hturns with ⟨rfl, -⟩ | ⟨-, rfl, -⟩
    · exact nofun
    · rintro c ⟨⟩
      decide
  rw [distance?_text sign hascii hsome hunit hne hname hbehind]
  rcases hturns with ⟨rfl, rfl⟩ | ⟨rfl, rfl, rfl⟩
  · rfl
  · rw [if_neg (by decide), if_pos (by decide)]

theorem written_distanceText {expr : String} {sign : Option Bool} {back : Bool}
    (hturns : Turns sign behind back) (hascii : ∀ c ∈ digits, c.isDigit = true) (hsome : digits ≠ [])
    (hne : name ≠ []) (hname : ∀ c ∈ name, isUnitLetter c = true)
    (hexpr : expr.toList = distanceText sign digits name behind) :
    written expr = distanceText sign digits name behind := by
  have hmark : ∀ c ∈ ['+', '-', ' '], Case.IsLower c := by
    have hmarks : Case.IsLower '+' ∧ Case.IsLower '-' ∧ Case.IsLower ' ' := by decide +kernel
    simpa using hmarks
  have hago : ∀ c ∈ " ago".toList, Case.IsLower c := by
    have hletters : Case.IsLower ' ' ∧ Case.IsLower 'a' ∧ Case.IsLower 'g' ∧ Case.IsLower 'o' := by
      decide +kernel
    simpa using hletters
  rw [written_of_lower, hexpr]
  · intro c hc
    rw [hexpr] at hc
    rcases mem_distanceText hc with hc | hc | hc | hc
    · exact hmark c hc
    · exact (plain_of_isDigit (hascii c hc)).1
    · exact (plain_of_isUnitLetter (hname c hc)).1
    · rcases hturns with ⟨rfl, -⟩ | ⟨-, rfl, -⟩
      · cases hc
      · exact hago c hc
  · intro c hc
    rw [hexpr] at hc
    rcases head?_distanceText hsome hc with hc | rfl | rfl
    · exact (plain_of_isDigit (hascii c hc)).2
    · decide
    · decide
  · intro c hc
    rw [hexpr, getLast?_distanceText sign hne] at hc
    rcases hturns with ⟨rfl, -⟩ | ⟨-, rfl, -⟩
    · rw [List.append_nil] at hc
      exact (plain_of_isUnitLetter (hname c (List.mem_of_getLast? hc))).2.1
    · rw [List.getLast?_append] at hc
      cases hc
      decide

theorem form?_of_distance? {text : List Char} {moment : Option Moment}
    (hstart : ∀ c ∈ text.head?, c.isDigit = true ∨ c = '+' ∨ c = '-') (hblank : ' ' ∈ text)
    (h : distance? almanac text reference = some moment) :
    form? almanac text reference = some moment := by
  have hletter : ∀ c ∈ text.head?, isUnitLetter c = false ∧ c ≠ '@' := by
    intro c hc
    rcases hstart c hc with hdigit | rfl | rfl
    · have hdigit := isDigit_of_ascii hdigit
      exact ⟨not_isUnitLetter_of_isDigit hdigit, ne_of_isDigit hdigit (by decide)⟩
    · decide
    · decide
  have hepoch : epoch? text = none :=
    epoch?_eq_none (fun hat => (hletter '@' hat).2 rfl) ⟨' ', hblank, by decide⟩
  rw [form?, keyword?_eq_none fun c hc => (hletter c hc).1, hepoch, h]
  rfl

/-! ## Answers -/

/-- So many units before or behind a moment, the answer is the number of seconds there. A number that is
too long to be read leads out of the calendar. -/
theorem awayFrom?_seconds (halmanac : almanac.AddsInOrder) {s : Int}
    (hs : (Moment.ofEpoch s).InCalendar) {length : Int} (hunit : unit.seconds? = some length)
    (hlength : 1 ≤ length) (negative : Bool) (n : Nat) :
    (awayFrom? almanac (.ofEpoch s) unit negative (decimal n)).elim 0 Moment.toEpoch =
      within (if negative then s - n * length else s + n * length) := by
  by_cases hshort : Short n
  · obtain ⟨hyears, hmonths, hseconds⟩ := span_fixed hunit (if negative then -(n : Int) else n)
    have hmove : (Moment.ofEpoch s).later ((if negative then -(n : Int) else n) * length) =
        .ofEpoch (if negative then s - n * length else s + n * length) := by
      cases negative with
      | true =>
        have hback : s + -(n : Int) * length = s - n * length := by rw [Int.neg_mul]; omega
        exact congrArg Moment.ofEpoch hback
      | false => rfl
    rw [awayFrom?, ofRun_decimal hshort]
    simp only
    rw [halmanac.move?_of_fixed hs hyears hmonths, hseconds, hmove]
    exact inRange?_ofEpoch _
  · have hbig := le_of_not_short hshort
    have hfar : (n : Int) * 1 ≤ n * length := Int.mul_le_mul_of_nonneg_left hlength (by omega)
    have hout : ¬(Moment.ofEpoch (if negative then s - n * length else s + n * length)).InCalendar := by
      rw [Moment.inCalendar_ofEpoch] at hs ⊢
      split <;> omega
    rw [awayFrom?, ofRun_decimal_of_not_short hshort, within, if_neg hout]
    rfl

section

variable (halmanac : almanac.AddsInOrder) {s : Int} (hs : (Moment.ofEpoch s).InCalendar)
  {unit : String} {length : Int} (hunit : (unit, length) ∈ fixedUnits)

include halmanac hs hunit

theorem timestamp_text {expr : String} {sign : Option Bool} {back : Bool} {n : Nat}
    (hturns : Turns sign behind back)
    (hexpr : expr.toList = distanceText sign (decimal n) unit.toList behind) :
    timestamp almanac expr (.ofEpoch s) =
      .ok (within (if back then s - n * length else s + n * length)) := by
  obtain ⟨hfixed, hlength⟩ := unit?_fixed _ hunit
  obtain ⟨unit', hread, hseconds⟩ := Option.bind_eq_some_iff.mp hfixed
  obtain ⟨hne, hletters⟩ := name_fixed _ hunit
  have hname : ∀ c ∈ unit.toList, isUnitLetter c = true := List.all_eq_true.mp hletters
  have hascii : ∀ c ∈ decimal n, c.isDigit = true := fun c hc => ascii_of_mem_decimal hc
  have hsome : decimal n ≠ [] := (isDigits_iff.mp (isDigits_decimal n)).1
  have hdistance : distance? almanac (distanceText sign (decimal n) unit.toList behind) (.ofEpoch s) =
      some (awayFrom? almanac (.ofEpoch s) unit' back (decimal n)) :=
    distance?_turns hturns hascii hsome (by rwa [String.ofList_toList]) hne hname
  have hblank : ' ' ∈ distanceText sign (decimal n) unit.toList behind := by
    cases sign <;> simp [distanceText]
  have hform := form?_of_distance?
    (fun c hc => (head?_distanceText hsome hc).imp_left (hascii c)) hblank hdistance
  rw [timestamp_of_form (written_distanceText hturns hascii hsome hne hname hexpr)
    (List.ne_nil_of_mem hblank) hform, awayFrom?_seconds halmanac hs hseconds hlength]

end

/-- The spellings of a distance that look forward. -/
def forward (n : Nat) (unit : String) : List String :=
  ["+" ++ toString n ++ " " ++ unit, toString n ++ " " ++ unit]

/-- The spellings of a distance that look back. -/
def backward (n : Nat) (unit : String) : List String :=
  ["-" ++ toString n ++ " " ++ unit, toString n ++ " " ++ unit ++ " ago"]

theorem toList_unsigned (n : Nat) (unit behind : String) :
    (toString n ++ " " ++ unit ++ behind).toList =
      distanceText none (decimal n) unit.toList behind.toList := by
  have hdigits : (toString n).toList = decimal n := Nat.toList_repr
  simp only [String.toList_append, hdigits, distanceText, List.append_assoc]
  rfl

theorem toList_signed {sign : String} (negative : Bool)
    (hsign : sign.toList = [if negative then '-' else '+']) (n : Nat) (unit : String) :
    (sign ++ toString n ++ " " ++ unit).toList =
      distanceText (some negative) (decimal n) unit.toList [] := by
  have hdigits : (toString n).toList = decimal n := Nat.toList_repr
  simp only [String.toList_append, hsign, hdigits, distanceText, List.append_assoc, List.append_nil]
  rfl

section

variable (halmanac : almanac.AddsInOrder) {s : Int} (hs : (Moment.ofEpoch s).InCalendar)
  {unit : String} {length : Int} (hunit : (unit, length) ∈ fixedUnits) (n : Nat)

include halmanac hs hunit

theorem timestamp_forward : ∀ expr ∈ forward n unit,
    timestamp almanac expr (.ofEpoch s) = .ok (within (s + n * length)) := by
  have htext := toList_unsigned n unit ""
  rw [String.append_empty] at htext
  intro expr hexpr
  simp only [forward, List.mem_cons, List.not_mem_nil, or_false] at hexpr
  rcases hexpr with rfl | rfl
  · rw [timestamp_text halmanac hs hunit (.inl ⟨rfl, rfl⟩ : Turns _ _ false)
      (toList_signed false rfl n unit)]
    rfl
  · rw [timestamp_text halmanac hs hunit (.inl ⟨rfl, rfl⟩ : Turns _ _ false) htext]
    rfl

theorem timestamp_backward : ∀ expr ∈ backward n unit,
    timestamp almanac expr (.ofEpoch s) = .ok (within (s - n * length)) := by
  intro expr hexpr
  simp only [backward, List.mem_cons, List.not_mem_nil, or_false] at hexpr
  rcases hexpr with rfl | rfl
  · rw [timestamp_text halmanac hs hunit (.inl ⟨rfl, rfl⟩ : Turns _ _ true)
      (toList_signed true rfl n unit)]
    rfl
  · rw [timestamp_text halmanac hs hunit (.inr ⟨rfl, rfl, rfl⟩ : Turns _ _ true)
      (toList_unsigned n unit " ago")]
    rfl

end

/-- A distance in a unit of fixed length counts for its length in seconds only, if the almanac adds years
and months first and then the fixed durations: forward and back, the answer is the number of seconds
that the clock shows then, or zero outside the calendar, and distances of one length have one answer
whatever their units are. -/
theorem timestamp_distance (halmanac : almanac.AddsInOrder) {s : Int}
    (hs : (Moment.ofEpoch s).InCalendar) {unit : String} {length : Int}
    (hunit : (unit, length) ∈ fixedUnits) (n : Nat) :
    (∀ expr ∈ forward n unit,
      timestamp almanac expr (.ofEpoch s) = .ok (within (s + n * length))) ∧
    (∀ expr ∈ backward n unit,
      timestamp almanac expr (.ofEpoch s) = .ok (within (s - n * length))) ∧
    ∀ unit' length', (unit', length') ∈ fixedUnits → ∀ n' : Nat, n' * length' = n * length →
      (∀ expr ∈ forward n unit, ∀ expr' ∈ forward n' unit',
        timestamp almanac expr' (.ofEpoch s) = timestamp almanac expr (.ofEpoch s)) ∧
      ∀ expr ∈ backward n unit, ∀ expr' ∈ backward n' unit',
        timestamp almanac expr' (.ofEpoch s) = timestamp almanac expr (.ofEpoch s) := by
  refine ⟨timestamp_forward halmanac hs hunit n, timestamp_backward halmanac hs hunit n, ?_⟩
  intro unit' length' hunit' n' hlong
  constructor
  · intro expr hexpr expr' hexpr'
    rw [timestamp_forward halmanac hs hunit n expr hexpr,
      timestamp_forward halmanac hs hunit' n' expr' hexpr', hlong]
  · intro expr hexpr expr' hexpr'
    rw [timestamp_backward halmanac hs hunit n expr hexpr,
      timestamp_backward halmanac hs hunit' n' expr' hexpr', hlong]

/-- One second before the leap day of 2000 a fortnight and two weeks lead to one moment. -/
theorem timestamp_distance_fortnight :
    (Almanac.standard 2000).AddsInOrder ∧ (Moment.ofEpoch 951782399).InCalendar ∧
    ("fortnight", 1209600) ∈ fixedUnits ∧
    (∀ expr ∈ forward 1 "fortnight",
      timestamp (.standard 2000) expr (.ofEpoch 951782399) = .ok 952991999) ∧
    ∀ expr ∈ forward 1 "fortnight", ∀ expr' ∈ forward 2 "weeks",
      timestamp (.standard 2000) expr' (.ofEpoch 951782399) =
        timestamp (.standard 2000) expr (.ofEpoch 951782399) := by
  have halmanac := Almanac.addsInOrder_standard 2000
  have hs : (Moment.ofEpoch 951782399).InCalendar := Moment.inCalendar_ofEpoch.mpr (by decide)
  have hunit : ("fortnight", 1209600) ∈ fixedUnits := by decide
  have hend : (Moment.ofEpoch (951782399 + ((1 : Nat) : Int) * 1209600)).InCalendar :=
    Moment.inCalendar_ofEpoch.mpr (by decide)
  obtain ⟨hforward, -, hequal⟩ := timestamp_distance halmanac hs hunit 1
  refine ⟨halmanac, hs, hunit, fun expr hexpr => ?_,
    (hequal "weeks" 604800 (by decide) 2 (by decide)).1⟩
  rw [hforward expr hexpr, within, if_pos hend]
  rfl

end Sift.DateExpr
