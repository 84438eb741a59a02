import CodeIndex.Config
import CodeIndex.Proofs.Json.Printed
import Mathlib.Data.List.Nodup

/-!
# Settings that are left out

A file gives some of the settings, in two sections. What it gives is taken over, and what it leaves
out keeps its default.

**Layouts** (`Config.Layout`). A layout says which sections and which settings a file has, and in
which order. A section may stand there with nothing in it.

**Theorem (`Config.load_merges`).** A file that is laid out in any way, and written as any text of
its values, is loaded as the settings that it gives with the defaults for all others. If a number or
a list in it is replaced by something else, all settings are defaults, also those that are given as
they should be.

All settings of a file are read one after another, and one that cannot be read spoils the file
(`ofJson?_json`).
-/

namespace CodeIndex.Config

open Json

/-! ## Layouts -/

inductive Section where
  | scan
  | search
  deriving DecidableEq

inductive Setting where
  | excludedNames
  | maxFileBytes
  | maxFiles
  | mode
  | batchSize
  deriving DecidableEq

def Section.key : Section → String
  | scan => "scan"
  | search => "search"

namespace Setting

def key : Setting → String
  | excludedNames => "exclude_dir_names"
  | maxFileBytes => "max_file_bytes"
  | maxFiles => "max_files"
  | mode => "mode"
  | batchSize => "batch_size"

/-- The section that a setting stands in. -/
def place : Setting → Section
  | excludedNames | maxFileBytes | maxFiles => .scan
  | mode | batchSize => .search

/-- A setting, as it is written in a file. -/
def value (c : Config) : Setting → Json
  | excludedNames => arr (c.scan.excludedNames.map str)
  | maxFileBytes => int c.scan.maxFileBytes
  | maxFiles => int c.scan.maxFiles
  | mode => str c.search.mode.name
  | batchSize => int c.search.batchSize

theorem key_injective : Function.Injective key := by
  intro x y same
  cases x <;> cases y <;> first | rfl | exact absurd same (by decide)

end Setting

theorem Section.key_injective : Function.Injective Section.key := by
  intro x y same
  cases x <;> cases y <;> first | rfl | exact absurd same (by decide)

/-- Which sections and settings there are in a file, in their order. -/
structure Layout where
  sections : List Section
  settings : Section → List Setting
  sections_once : sections.Nodup
  settings_once : ∀ s, (settings s).Nodup
  placed : ∀ s, ∀ x ∈ settings s, x.place = s

namespace Layout

/-- The file gives the setting. -/
def Keeps (l : Layout) (x : Setting) : Prop := x.place ∈ l.sections ∧ x ∈ l.settings x.place

instance (l : Layout) (x : Setting) : Decidable (l.Keeps x) :=
  inferInstanceAs (Decidable (_ ∧ _))

/-- What stands in the file, if the settings have these values. -/
def json (l : Layout) (value : Setting → Json) : Json :=
  obj (l.sections.map fun s => (s.key, obj ((l.settings s).map fun x => (x.key, value x))))

/-- A setting as the file gives it, or else its default. -/
def pick {α : Type} (l : Layout) (c : Config) (x : Setting) (get : Config → α) : α :=
  if l.Keeps x then get c else get {}

/-- The settings that are given, and the defaults of the others. -/
def merge (l : Layout) (c : Config) : Config where
  scan.excludedNames := l.pick c .excludedNames (·.scan.excludedNames)
  scan.maxFileBytes := l.pick c .maxFileBytes (·.scan.maxFileBytes)
  scan.maxFiles := l.pick c .maxFiles (·.scan.maxFiles)
  search.mode := l.pick c .mode (·.search.mode)
  search.batchSize := l.pick c .batchSize (·.search.batchSize)

end Layout

/-! ## Members of an object -/

section

variable {α : Type} {key : α → String} {xs : List α}

theorem length_filter_members (injective : Function.Injective key) (value : α → Json)
    (once : xs.Nodup) (a : α) :
    ((xs.map fun x => (key x, value x)).filter (·.1 = key a)).length ≤ 1 := by
  have counted : ((xs.map fun x => (key x, value x)).filter (·.1 = key a)).length =
      (xs.map key).count (key a) := by
    rw [← List.countP_eq_length_filter, List.countP_map, List.count, List.countP_map]
    rfl
  rw [counted]
  exact List.nodup_iff_count_le_one.1 (once.map injective) (key a)

variable [DecidableEq α]

/-- The value of a key, where each key stands for something. -/
theorem lookup_members (injective : Function.Injective key) (value : α → Json) (xs : List α)
    (a : α) :
    (xs.map fun x => (key x, value x)).lookup (key a) =
      if a ∈ xs then some (value a) else none := by
  induction xs with
  | nil => simp
  | cons x xs ih =>
    rw [List.map_cons, List.lookup_cons, ih]
    by_cases same : a = x
    · simp [same]
    · have apart : (key a == key x) = false := by simpa using fun h => same (injective h)
      simp [apart, same]

/-- The members with the given keys are found, each by its key. -/
theorem settings?_members (injective : Function.Injective key) (value : α → Json) (once : xs.Nodup)
    (as : List α) :
    settings? (as.map key) (obj (xs.map fun x => (key x, value x))) =
      some (as.map fun a => if a ∈ xs then some (value a) else none) := by
  rw [settings?, if_neg]
  · simp only [List.map_map, Function.comp_def, lookup_members injective]
  · rw [Bool.not_eq_true, List.any_eq_false]
    intro n hn
    obtain ⟨a, -, rfl⟩ := List.mem_map.1 hn
    simpa using length_filter_members injective value once a

end

namespace Layout

variable {l : Layout} {x : Setting} {value : Setting → Json}

/-- What the file gives for a setting. -/
def given (l : Layout) (value : Setting → Json) (x : Setting) : Option Json :=
  if l.Keeps x then some (value x) else none

/-- What the file gives for a section. -/
def givenSection (l : Layout) (value : Setting → Json) (s : Section) : Option Json :=
  if s ∈ l.sections then some (obj ((l.settings s).map fun x => (x.key, value x))) else none

theorem settings?_section (l : Layout) (value : Setting → Json) {s : Section}
    (there : s ∈ l.sections) (xs : List Setting) (all : ∀ x ∈ xs, x.place = s) :
    settings? (xs.map Setting.key) (obj ((l.settings s).map fun x => (x.key, value x))) =
      some (xs.map (l.given value)) := by
  rw [settings?_members Setting.key_injective value (l.settings_once s)]
  refine congrArg some (List.map_congr_left fun x hx => ?_)
  obtain rfl := all x hx
  simp [given, Keeps, there]

theorem given_of_not_mem (value : Setting → Json) {s : Section} (absent : s ∉ l.sections)
    (placed : x.place = s) : l.given value x = none :=
  if_neg fun keeps => absent (placed ▸ keeps.1)

theorem scan?_given (l : Layout) (value : Setting → Json) :
    orDefault scan? {} (l.givenSection value .scan) = do
      return ⟨← orDefault strings? ({} : ScanConfig).excludedNames (l.given value .excludedNames),
        ← orDefault (·.nat?) ({} : ScanConfig).maxFileBytes (l.given value .maxFileBytes),
        ← orDefault (·.nat?) ({} : ScanConfig).maxFiles (l.given value .maxFiles)⟩ := by
  by_cases there : Section.scan ∈ l.sections
  · have read : settings? scanNames _ = _ := l.settings?_section value there
      [.excludedNames, .maxFileBytes, .maxFiles] (by simp [Setting.place])
    rw [givenSection, if_pos there, orDefault, scan?, read]
    rfl
  · rw [givenSection, if_neg there, given_of_not_mem value there rfl,
      given_of_not_mem value there rfl, given_of_not_mem value there rfl]
    rfl

theorem search?_given (l : Layout) (value : Setting → Json) :
    orDefault search? {} (l.givenSection value .search) = do
      return ⟨← orDefault mode? ({} : SearchConfig).mode (l.given value .mode),
        ← orDefault (·.nat?) ({} : SearchConfig).batchSize (l.given value .batchSize)⟩ := by
  by_cases there : Section.search ∈ l.sections
  · have read : settings? searchNames _ = _ := l.settings?_section value there
      [.mode, .batchSize] (by simp [Setting.place])
    rw [givenSection, if_pos there, orDefault, search?, read]
    rfl
  · rw [givenSection, if_neg there, given_of_not_mem value there rfl,
      given_of_not_mem value there rfl]
    rfl

theorem ofJson?_json (l : Layout) (value : Setting → Json) :
    ofJson? (l.json value) = do
      let names ← orDefault strings? ({} : Config).scan.excludedNames (l.given value .excludedNames)
      let bytes ← orDefault (·.nat?) ({} : Config).scan.maxFileBytes (l.given value .maxFileBytes)
      let files ← orDefault (·.nat?) ({} : Config).scan.maxFiles (l.given value .maxFiles)
      let mode ← orDefault mode? ({} : Config).search.mode (l.given value .mode)
      let size ← orDefault (·.nat?) ({} : Config).search.batchSize (l.given value .batchSize)
      return ⟨⟨names, bytes, files⟩, ⟨mode, size⟩⟩ := by
  have read : settings? sectionNames (l.json value) =
      some [l.givenSection value .scan, l.givenSection value .search] :=
    settings?_members Section.key_injective _ l.sections_once [.scan, .search]
  rw [ofJson?, read]
  simp only [Option.bind_eq_bind, Option.bind_some, scan?_given, search?_given, Option.bind_assoc]
  rfl

/-! ## What is read -/

/-- A setting that is read back if it is given, and else keeps its default. -/
theorem orDefault_given {α : Type} {read : Json → Option α} {default a : α}
    (back : read (value x) = some a) :
    orDefault read default (l.given value x) = some (if l.Keeps x then a else default) := by
  by_cases keeps : l.Keeps x
  · simp [given, keeps, orDefault, back]
  · simp [given, keeps, orDefault]

theorem strings?_map_str (names : List String) : strings? (arr (names.map str)) = some names := by
  simp only [strings?, items?, Option.bind_some]
  induction names with
  | nil => rfl
  | cons name names ih =>
    rw [List.map_cons, List.mapM_cons, ih]
    rfl

theorem nat?_int (n : Nat) : (int n).nat? = some n := by simp [nat?]

/-- What is given is taken over, and the rest keeps its defaults. -/
theorem ofJson?_value (l : Layout) (c : Config) :
    ofJson? (l.json (Setting.value c)) = some (l.merge c) := by
  rw [ofJson?_json, orDefault_given (a := c.scan.excludedNames) (strings?_map_str _),
    orDefault_given (a := c.scan.maxFileBytes) (nat?_int _),
    orDefault_given (a := c.scan.maxFiles) (nat?_int _),
    orDefault_given (a := c.search.mode) (SearchMode.ofName?_name _),
    orDefault_given (a := c.search.batchSize) (nat?_int _)]
  rfl

end Layout

/-! ## Values that are not read -/

/-- A text, a truth value, null, or a number with a minus sign. -/
inductive Foreign : Json → Prop
  | str (s : String) : Foreign (str s)
  | bool (b : Bool) : Foreign (bool b)
  | null : Foreign null
  | negative (whole fraction : List Nat) (exponent : Option Int) :
      Foreign (ofParts true whole fraction exponent)

theorem ofParts_minus (whole fraction : List Nat) (exponent : Option Int) :
    (∃ n : Nat, 0 < n ∧ ofParts true whole fraction exponent = int (-n)) ∨
      (∃ x, ofParts true whole fraction exponent = real x) ∨
      ofParts true whole fraction exponent = huge := by
  unfold ofParts
  dsimp only
  rw [if_neg (by simp)]
  split
  · rename_i below
    simp only [Bool.and_eq_true, decide_eq_true_eq] at below
    exact .inl ⟨_, below.1.2, rfl⟩
  · split
    · exact .inr (.inl ⟨_, rfl⟩)
    · exact .inr (.inr rfl)

theorem Foreign.not_read {j : Json} (foreign : Foreign j) : j.nat? = none ∧ strings? j = none := by
  cases foreign with
  | str s | bool b | null => exact ⟨rfl, rfl⟩
  | negative whole fraction exponent =>
    obtain ⟨n, positive, same⟩ | ⟨x, same⟩ | same := ofParts_minus whole fraction exponent <;>
      rw [same]
    · exact ⟨if_neg (by omega), rfl⟩
    · exact ⟨rfl, rfl⟩
    · exact ⟨rfl, rfl⟩

namespace Layout

variable {l : Layout} {x : Setting} {value : Setting → Json}

theorem orDefault_given_eq_none {α : Type} {read : Json → Option α} {default : α}
    (keeps : l.Keeps x) (refused : read (value x) = none) :
    orDefault read default (l.given value x) = none := by
  simp [given, keeps, orDefault, refused]

/-- One number or list that is foreign spoils the file. -/
theorem ofJson?_eq_none (keeps : l.Keeps x) (no_mode : x ≠ .mode) (foreign : Foreign (value x)) :
    ofJson? (l.json value) = none := by
  obtain ⟨no_nat, no_strings⟩ := foreign.not_read
  rw [ofJson?_json]
  cases x with
  | mode => exact absurd rfl no_mode
  | excludedNames => rw [orDefault_given_eq_none keeps no_strings]; rfl
  | maxFileBytes => rw [orDefault_given_eq_none keeps no_nat]; simp
  | maxFiles => rw [orDefault_given_eq_none keeps no_nat]; simp
  | batchSize => rw [orDefault_given_eq_none keeps no_nat]; simp

end Layout

/-! ## Loading -/

variable {read : Reader} {root text : String}

theorem load_of_text (file : read (Path.join root fileName) = .ok text.toUTF8) :
    load read root = (ofText? text).getD {} := by
  have decoded : String.fromUTF8? text.toUTF8 = some text := dif_pos text.isValidUTF8
  rw [load, file]
  simp only [decoded, Option.bind_some]

/-- The numbers fit in 64 bits. -/
structure Sized (c : Config) : Prop where
  bytes : c.scan.maxFileBytes < Nat.pow 2 64
  files : c.scan.maxFiles < Nat.pow 2 64
  batch : c.search.batchSize < Nat.pow 2 64

theorem Sized.exact_value {c : Config} (sized : c.Sized) (x : Setting) : Exact (x.value c) := by
  have number : ∀ {n : Nat}, n < Nat.pow 2 64 → Exact (int n) := by
    intro n fits
    exact .int (by omega) (by omega)
  cases x with
  | excludedNames =>
    refine .arr fun j hj => ?_
    obtain ⟨name, -, rfl⟩ := List.mem_map.1 hj
    exact .str name
  | maxFileBytes => exact number sized.bytes
  | maxFiles => exact number sized.files
  | mode => exact .str _
  | batchSize => exact number sized.batch

theorem Layout.exact_json (l : Layout) {value : Setting → Json} (exact : ∀ x, Exact (value x)) :
    Exact (l.json value) := by
  refine .obj fun m hm => ?_
  obtain ⟨s, -, rfl⟩ := List.mem_map.1 hm
  refine .obj fun m hm => ?_
  obtain ⟨x, -, rfl⟩ := List.mem_map.1 hm
  exact exact x

/-- **What a file leaves out keeps its default, and one wrong value spoils the file.** The settings
can be written; each text of them, be it the written one or another, is loaded as them. -/
theorem load_merges (c : Config) (sized : c.Sized) (l : Layout) :
    SpelledAs (l.json (Setting.value c)) (l.json (Setting.value c)).compact.toList ∧
    ∀ (read : Reader) (root text : String), read (Path.join root fileName) = .ok text.toUTF8 →
      (Spaced (SpelledAs (l.json (Setting.value c))) text.toList → load read root = l.merge c) ∧
      ∀ x j, l.Keeps x → x ≠ .mode → Foreign j →
        Spaced (SpelledAs (l.json (Function.update (Setting.value c) x j))) text.toList →
        load read root = {} := by
  refine ⟨spelledAs_compact (l.exact_json sized.exact_value), fun read root text file => ?_⟩
  rw [load_of_text file]
  constructor
  · intro spelled
    rw [ofText?, read?_of_spelled spelled, Option.bind_some, Layout.ofJson?_value]
    rfl
  · intro x j keeps no_mode foreign spelled
    have refused : Foreign (Function.update (Setting.value c) x j x) := by
      rwa [Function.update_self]
    rw [ofText?, read?_of_spelled spelled, Option.bind_some,
      Layout.ofJson?_eq_none keeps no_mode refused]
    rfl

namespace Example

/-- A file with two settings in one section, and another section that is empty. -/
def layout : Layout where
  sections := [.search, .scan]
  settings
    | .scan => [.maxFiles, .excludedNames]
    | .search => []
  sections_once := by decide
  settings_once s := by cases s <;> decide
  placed s := by cases s <;> decide

def config : Config := { scan := { excludedNames := ["a\"é\n"], maxFiles := 18446744073709551615 } }

end Example

/-- The theorem for a name with a quote, a letter outside of ASCII and a line break, and for a
number that is replaced by a truth value. -/
theorem load_merges_partial :
    let written := "\x7b\"search\":\x7b\x7d,\"scan\":\x7b\"max_files\":18446744073709551615," ++
      "\"exclude_dir_names\":[\"a\\\"é\\n\"]\x7d\x7d"
    let spoiled := "\x7b\"search\":\x7b\x7d,\"scan\":\x7b\"max_files\":true," ++
      "\"exclude_dir_names\":[\"a\\\"é\\n\"]\x7d\x7d"
    load (fun _ => .ok written.toUTF8) "/" = Example.config ∧
      load (fun _ => .ok spoiled.toUTF8) "/" = {} := by
  intro written spoiled
  have sized : Example.config.Sized := ⟨by decide, by decide, by decide⟩
  obtain ⟨spelled, loads⟩ := load_merges Example.config sized Example.layout
  have isWritten : (Example.layout.json (Setting.value Example.config)).compact = written := by
    decide +kernel
  have isSpoiled : (Example.layout.json
      (Function.update (Setting.value Example.config) .maxFiles (bool true))).compact =
      spoiled := by
    decide +kernel
  have merged : Example.layout.merge Example.config = Example.config := by decide +kernel
  rw [isWritten] at spelled
  constructor
  · rw [(loads _ "/" written rfl).1 (.of spelled), merged]
  · refine (loads _ "/" spoiled rfl).2 .maxFiles (bool true) (by decide) (by decide) (.bool true)
      (.of ?_)
    rw [← isSpoiled]
    refine spelledAs_compact (Example.layout.exact_json fun x => ?_)
    by_cases same : x = .maxFiles
    · rw [same, Function.update_self]
      exact .bool true
    · rw [Function.update_of_ne same]
      exact sized.exact_value x

end CodeIndex.Config
