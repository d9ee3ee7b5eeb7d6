import BlockTemplates.Project.DataFile
import BlockTemplates.Proofs.Result

/-! The data of TOML values. A value becomes data of the same shape unless it holds a float that is no
number, and then the first of them is the failure. Main statement: `toData_mirrors`. -/

namespace BlockTemplates.Toml

open Decimal

mutual

/-- The data that has the shape of a value. -/
inductive Mirrors : Toml → Data → Prop
  | string (s : String) : Mirrors (.string s) (.string s)
  | int (n : Int) : Mirrors (.int n) (.int n)
  | float (n : Numeral) : Mirrors (.float n) (.float n.toFloat)
  | bool (b : Bool) : Mirrors (.bool b) (.bool b)
  | moment (m : Moment) : Mirrors (.moment m) (.string m.text)
  | array {items : List Toml} {values : List Data} (inner : ItemsMirror items values) :
      Mirrors (.array items) (.list values)
  | table {entries : List (String × Toml)} {values : List (String × Data)} (inner : EntriesMirror entries values) :
      Mirrors (.table entries) (.table values)

inductive ItemsMirror : List Toml → List Data → Prop
  | nil : ItemsMirror [] []
  | cons {item : Toml} {data : Data} {items : List Toml} {values : List Data} (first : Mirrors item data)
      (rest : ItemsMirror items values) : ItemsMirror (item :: items) (data :: values)

inductive EntriesMirror : List (String × Toml) → List (String × Data) → Prop
  | nil : EntriesMirror [] []
  | cons (key : String) {value : Toml} {data : Data} {entries : List (String × Toml)}
      {values : List (String × Data)} (first : Mirrors value data) (rest : EntriesMirror entries values) :
      EntriesMirror ((key, value) :: entries) ((key, data) :: values)

end

theorem EntriesMirror.keys : ∀ {entries : List (String × Toml)} {values : List (String × Data)},
    EntriesMirror entries values → values.map Prod.fst = entries.map Prod.fst
  | _, _, .nil => rfl
  | _, _, .cons key _ rest => congrArg (key :: ·) rest.keys

mutual

/-- The floats of a value in the order in which it is read. -/
def floats : Toml → List Numeral
  | .float n => [n]
  | .array items => itemFloats items
  | .table entries => entryFloats entries
  | _ => []

def itemFloats : List Toml → List Numeral
  | [] => []
  | item :: rest => floats item ++ itemFloats rest

def entryFloats : List (String × Toml) → List Numeral
  | [] => []
  | (_, value) :: rest => floats value ++ entryFloats rest

end

section Unique

mutual

theorem Mirrors.unique {value : Toml} {data data' : Data} (first : Mirrors value data)
    (second : Mirrors value data') : data = data' := by
  cases first with
  | array inner =>
    obtain ⟨⟩ | ⟨⟩ | ⟨⟩ | ⟨⟩ | ⟨⟩ | inner' | ⟨⟩ := second
    exact congrArg _ (inner.unique inner')
  | table inner =>
    obtain ⟨⟩ | ⟨⟩ | ⟨⟩ | ⟨⟩ | ⟨⟩ | ⟨⟩ | inner' := second
    exact congrArg _ (inner.unique inner')
  | _ =>
    cases second
    rfl

theorem ItemsMirror.unique {items : List Toml} {values values' : List Data} (first : ItemsMirror items values)
    (second : ItemsMirror items values') : values = values' := by
  cases first with
  | nil =>
    cases second
    rfl
  | cons head tail =>
    obtain _ | ⟨head', tail'⟩ := second
    rw [head.unique head', tail.unique tail']

theorem EntriesMirror.unique {entries : List (String × Toml)} {values values' : List (String × Data)}
    (first : EntriesMirror entries values) (second : EntriesMirror entries values') : values = values' := by
  cases first with
  | nil =>
    cases second
    rfl
  | cons key head tail =>
    obtain _ | ⟨_, head', tail'⟩ := second
    rw [head.unique head', tail.unique tail']

end

end Unique

section Settled

def word? (n : Numeral) : Option String :=
  match floatData n with
  | .error word => some word
  | .ok _ => none

/-- What a conversion comes to, by the floats that are met on the way. -/
inductive Settled {α : Type} (good : α → Prop) (found : List Numeral) : Except String α → Prop
  | made (value : α) (fine : good value) (finite : found.findSome? word? = none) : Settled good found (.ok value)
  | stopped (word : String) (first : found.findSome? word? = some word) : Settled good found (.error word)

variable {α β γ : Type} {good : α → Prop} {good' : β → Prop} {best : γ → Prop} {found found' : List Numeral}
  {converted : Except String α} {converted' : Except String β}

theorem Settled.map (settled : Settled good found converted) {wrap : α → γ}
    (wraps : ∀ value, good value → best (wrap value)) : Settled best found (converted.map wrap) := by
  cases settled with
  | made value fine finite => exact .made _ (wraps value fine) finite
  | stopped word first => exact .stopped word first

theorem Settled.cons (settled : Settled good found converted) (settled' : Settled good' found' converted')
    {join : α → β → γ} (joins : ∀ value value', good value → good' value' → best (join value value')) :
    Settled best (found ++ found') (do return join (← converted) (← converted')) := by
  cases settled with
  | stopped word first => exact .stopped word (by rw [List.findSome?_append, first]; rfl)
  | made value fine finite =>
    cases settled' with
    | stopped word first => exact .stopped word (by rw [List.findSome?_append, finite, first]; rfl)
    | made value' fine' finite' =>
      exact .made _ (joins value value' fine fine') (by rw [List.findSome?_append, finite, finite']; rfl)

theorem floatData_settled (n : Numeral) : Settled (Mirrors (.float n)) [n] (floatData n) := by
  cases n with
  | nan => exact .stopped _ rfl
  | infinite negative => exact .stopped _ rfl
  | finite negative digits exponent => exact .made _ (.float _) rfl

theorem Settled.eq_ok_iff {value : α} (settled : Settled good found converted)
    (unique : ∀ value value', good value → good value' → value = value') :
    converted = .ok value ↔ good value ∧ found.findSome? word? = none := by
  cases settled with
  | made value' fine finite =>
    rw [Except.ok.injEq, and_iff_left finite]
    constructor
    · rintro rfl
      exact fine
    · exact unique value' value fine
  | stopped word first =>
    rw [first]
    exact iff_of_false nofun (fun made => nomatch made.2)

theorem Settled.exists_ok_iff (settled : Settled good found converted) :
    (∃ value, converted = .ok value) ↔ found.findSome? word? = none := by
  cases settled with
  | made value fine finite => exact iff_of_true ⟨value, rfl⟩ finite
  | stopped word first =>
    rw [first]
    exact iff_of_false (fun ⟨_, same⟩ => nomatch same) nofun

theorem Settled.eq_error_iff {word : String} (settled : Settled good found converted) :
    converted = .error word ↔ found.findSome? word? = some word := by
  cases settled with
  | made value fine finite =>
    rw [finite]
    exact iff_of_false nofun nofun
  | stopped word' first => rw [first, Except.error.injEq, Option.some.injEq]

mutual

theorem toData_settled : ∀ value : Toml, Settled (Mirrors value) value.floats value.toData
  | .string s => .made _ (.string s) rfl
  | .int n => .made _ (.int n) rfl
  | .float n => floatData_settled n
  | .bool b => .made _ (.bool b) rfl
  | .moment m => .made _ (.moment m) rfl
  | .array items => (itemsToData_settled items).map fun _ inner => .array inner
  | .table entries => (entriesToData_settled entries).map fun _ inner => .table inner

theorem itemsToData_settled : ∀ items : List Toml, Settled (ItemsMirror items) (itemFloats items) (itemsToData items)
  | [] => .made _ .nil rfl
  | item :: items => (toData_settled item).cons (itemsToData_settled items) fun _ _ first rest => .cons first rest

theorem entriesToData_settled : ∀ entries : List (String × Toml),
    Settled (EntriesMirror entries) (entryFloats entries) (entriesToData entries)
  | [] => .made _ .nil rfl
  | (key, value) :: entries =>
    (toData_settled value).cons (entriesToData_settled entries) fun _ _ first rest => .cons key first rest

end

end Settled

section Range

variable {lowest highest : Int} {n : Numeral}

mutual

theorem inRange_of_mem_floats : ∀ {value : Toml}, value.fits lowest highest = true → ∀ n ∈ value.floats, isInRange n = true
  | .string _, _ => List.forall_mem_nil _
  | .int _, _ => List.forall_mem_nil _
  | .float _, fits => List.forall_mem_singleton.mpr fits
  | .bool _, _ => List.forall_mem_nil _
  | .moment _, _ => List.forall_mem_nil _
  | .array _, fits => inRange_of_mem_itemFloats fits
  | .table _, fits => inRange_of_mem_entryFloats fits

theorem inRange_of_mem_itemFloats : ∀ {items : List Toml}, itemsFit lowest highest items = true →
    ∀ n ∈ itemFloats items, isInRange n = true
  | [], _ => List.forall_mem_nil _
  | item :: items, fits => by
    rw [itemsFit, Bool.and_eq_true] at fits
    exact List.forall_mem_append.mpr ⟨inRange_of_mem_floats fits.1, inRange_of_mem_itemFloats fits.2⟩

theorem inRange_of_mem_entryFloats : ∀ {entries : List (String × Toml)}, entriesFit lowest highest entries = true →
    ∀ n ∈ entryFloats entries, isInRange n = true
  | [], _ => List.forall_mem_nil _
  | (_, value) :: entries, fits => by
    rw [entriesFit, Bool.and_eq_true] at fits
    exact List.forall_mem_append.mpr ⟨inRange_of_mem_floats fits.1, inRange_of_mem_entryFloats fits.2⟩

end

/-- A float in range is no number exactly when it is not finite, and its text is then its word. -/
theorem word?_of_inRange (inRange : isInRange n = true) :
    word? n = if n.toFloat.isFinite then none else some (plain.write n.toFloat) := by
  cases n with
  | nan => decide +kernel
  | infinite negative => cases negative <;> decide +kernel
  | finite negative digits exponent =>
    have finite : (Numeral.finite negative digits exponent).toFloat.isFinite = true := inRange
    rw [if_pos finite]
    rfl

theorem word?_eq_none_iff (inRange : isInRange n = true) : word? n = none ↔ n.toFloat.isFinite = true := by
  rw [word?_of_inRange inRange]
  simp

theorem word?_eq_some_iff {word : String} (inRange : isInRange n = true) :
    word? n = some word ↔ n.toFloat.isFinite = false ∧ plain.write n.toFloat = word := by
  rw [word?_of_inRange inRange]
  simp

variable {found : List Numeral}

theorem findSome?_word?_eq_none_iff (inRange : ∀ n ∈ found, isInRange n = true) :
    found.findSome? word? = none ↔ ∀ n ∈ found, n.toFloat.isFinite = true := by
  rw [List.findSome?_eq_none_iff]
  exact forall₂_congr fun n inside => word?_eq_none_iff (inRange n inside)

theorem findSome?_word?_eq_some_iff {word : String} (inRange : ∀ n ∈ found, isInRange n = true) :
    found.findSome? word? = some word ↔ ∃ before n after, found = before ++ n :: after ∧
      (∀ earlier ∈ before, earlier.toFloat.isFinite = true) ∧ n.toFloat.isFinite = false ∧
        plain.write n.toFloat = word := by
  rw [List.findSome?_eq_some_iff]
  refine exists_congr fun before => exists_congr fun n => exists_congr fun after => and_congr_right fun whole => ?_
  rw [whole, List.forall_mem_append, List.forall_mem_cons] at inRange
  rw [and_comm, word?_eq_some_iff inRange.2.1]
  exact and_congr_left fun _ => forall₂_congr fun earlier inside => word?_eq_none_iff (inRange.1 earlier inside)

end Range

/-- The values that are read: their integers have 64 bits, and their floats stand for what is written. -/
def Readable : Type := { value : Toml // value.isReadable = true }

/-- A value that is read becomes the data of its shape exactly when each float in it is finite. Otherwise
the first float that is not is the failure, at any depth, with the path of the file. -/
theorem toData_mirrors (path : Path) (readable : Readable) :
    let value := readable.val
    let converted := value.toData.mapError (Failure.unconvertibleFloat path.text)
    (∀ data, converted = .ok data ↔ Mirrors value data ∧ ∀ n ∈ value.floats, n.toFloat.isFinite = true) ∧
      ((∃ data, converted = .ok data) ↔ ∀ n ∈ value.floats, n.toFloat.isFinite = true) ∧
      (∀ failure, converted = .error failure ↔ ∃ before n after, value.floats = before ++ n :: after ∧
        (∀ earlier ∈ before, earlier.toFloat.isFinite = true) ∧ n.toFloat.isFinite = false ∧
          failure = .unconvertibleFloat path.text (plain.write n.toFloat)) ∧
      ∀ content, Toml.ofText? content = some value → DataFormat.toml.read path content = converted := by
  obtain ⟨value, readable⟩ := readable
  dsimp only
  have settled := toData_settled value
  have inRange := inRange_of_mem_floats readable
  refine ⟨fun data => ?_, ?_, fun failure => ?_, fun content spelled => ?_⟩
  · rw [Result.mapError_eq_ok_iff, settled.eq_ok_iff fun _ _ => Mirrors.unique,
      findSome?_word?_eq_none_iff inRange]
  · simp only [Result.mapError_eq_ok_iff]
    rw [settled.exists_ok_iff, findSome?_word?_eq_none_iff inRange]
  · simp only [Result.mapError_eq_error_iff, settled.eq_error_iff, findSome?_word?_eq_some_iff inRange]
    constructor
    · rintro ⟨word, ⟨before, n, after, whole, earlier, bad, rfl⟩, rfl⟩
      exact ⟨before, n, after, whole, earlier, bad, rfl⟩
    · rintro ⟨before, n, after, whole, earlier, bad, rfl⟩
      exact ⟨_, ⟨before, n, after, whole, earlier, bad, rfl⟩, rfl⟩
  · unfold DataFormat.read
    rw [spelled, Option.filter_some, if_pos readable]
    rfl

/-- Two floats, of which the one that is written last comes first in the order of the keys. -/
def measured (side zone : Numeral) : Toml :=
  .table [("areas", .array [.int (-9223372036854775808),
      .array [.float (.finite false 5 (-1)), .table [("side", .float side)]]]),
    ("zone", .array [.int 1, .float zone])]

theorem toData_mirrors_measured :
    DataFormat.toml.read ⟨"site.toml"⟩
        "zone = [1, nan]\nareas = [-9223372036854775808, [0.5, \x7b side = -inf \x7d]]\n" =
      .error (.unconvertibleFloat "site.toml" "-inf") ∧
      ∃ data, ((measured (.finite false 25 (-2)) (.finite true 1 0)).toData.mapError
        (Failure.unconvertibleFloat "site.toml")) = .ok data := by
  have spelled : (Toml.ofText? "zone = [1, nan]\nareas = [-9223372036854775808, [0.5, \x7b side = -inf \x7d]]\n").map
      (fun value => (value.isReadable, value.floats)) =
        some (true, [.finite false 5 (-1), .infinite true, .nan]) := by
    decide +kernel
  obtain ⟨value, text, same⟩ := Option.map_eq_some_iff.mp spelled
  obtain ⟨readable, floats⟩ := Prod.mk.inj same
  obtain ⟨-, -, failing, read⟩ := toData_mirrors ⟨"site.toml"⟩ ⟨value, readable⟩
  obtain ⟨-, made, -⟩ :=
    toData_mirrors ⟨"site.toml"⟩ ⟨measured (.finite false 25 (-2)) (.finite true 1 0), by decide +kernel⟩
  constructor
  · rw [read _ text, failing]
    exact ⟨[.finite false 5 (-1)], .infinite true, [.nan], floats, by decide +kernel, by decide +kernel, by decide +kernel⟩
  · exact made.mpr (by decide +kernel)

end BlockTemplates.Toml
