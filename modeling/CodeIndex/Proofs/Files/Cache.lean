import CodeIndex.Files.Cache
import CodeIndex.Proofs.Maps

/-!
# What the cache keeps under an address

The cache keeps texts in files that it has handed out, and addresses stand for these files. Seen
from outside there is one thing to know of an address: the text that is kept under it, if any.

**Validity** (`FileCache.Valid`). Each address stands for a file of its own, with the path and
language that the address tells. Every operation keeps a cache valid; so what is done to the file of
one address never shows under another.

**Sources** (`FileCache.view`). The text at an address is the kept one or else the one on disk, and
it is kept from then on.

**Loads** (`FileCache.Loads`). As long as the disk stays as it is, loading keeps texts but does not
change what is seen at any address; so it does not matter in which order files are loaded.

Main results: `Valid.source`, `Valid.loads_load`, `Loads.view`.
-/

namespace CodeIndex

/-- The text on disk at a path. -/
def textAt (read : Reader) (path : String) : Option String :=
  match read path with
  | .error _ => none
  | .ok bytes => textOf bytes

namespace FileCache

variable {read : Reader} {c : FileCache} {uri v : String} {h k : Handle} {f : CachedFile}

/-- The text that is kept under an address. -/
def kept (c : FileCache) (uri : String) : Option String := (c.get? uri).bind c.cached

/-- Each address stands for a file of its own, with the path and language that it tells. -/
structure Valid (c : FileCache) : Prop where
  file : ∀ uri h, c.get? uri = some h →
    ∃ f, c.files[h]? = some f ∧ fileAt uri = .ok (f.path, f.language)
  distinct : ∀ uri v h, c.get? uri = some h → c.get? v = some h → uri = v

theorem valid_empty : Valid {} :=
  ⟨fun uri h hu => by simp [get?] at hu, fun uri v h hu => by simp [get?] at hu⟩

@[simp] theorem kept_empty : kept {} uri = none := by simp [kept, get?]

theorem kept_of_get? (hu : c.get? uri = some h) (hf : c.files[h]? = some f) :
    c.kept uri = f.text := by
  simp [kept, cached, hu, hf]

theorem Valid.get?_of_error (valid : c.Valid) {e : FileError} (he : fileAt uri = .error e) :
    c.get? uri = none := by
  cases hu : c.get? uri with
  | none => rfl
  | some h =>
    obtain ⟨f, -, hf⟩ := valid.file uri h hu
    rw [he] at hf
    cases hf

/-! ## Texts of files -/

@[simp] theorem get?_setText (text : Option String) :
    (c.setText h text).get? uri = c.get? uri := rfl

theorem files_setText (text : Option String) :
    (c.setText h text).files[k]? =
      (c.files[k]?).map fun f => if h = k then { f with text } else f := by
  simp only [setText, Array.getElem?_modify]
  cases c.files[k]? with
  | none => simp
  | some f => by_cases hk : h = k <;> simp [hk]

theorem cached_setText (hf : c.files[h]? = some f) (text : Option String) :
    (c.setText h text).cached k = if h = k then text else c.cached k := by
  rw [cached, files_setText, cached]
  by_cases hk : h = k
  · subst hk; simp [hf]
  · simp [hk]

theorem Valid.setText (valid : c.Valid) (h : Handle) (text : Option String) :
    (c.setText h text).Valid := by
  refine ⟨fun uri k hu => ?_, valid.distinct⟩
  obtain ⟨f, hf, hat⟩ := valid.file uri k hu
  rw [files_setText, hf]
  by_cases hk : h = k
  · exact ⟨{ f with text }, by simp [hk], hat⟩
  · exact ⟨f, by simp [hk], hat⟩

/-- A text set on the file of an address shows under this address alone. -/
theorem Valid.kept_setText (valid : c.Valid) (hu : c.get? uri = some h) (text : Option String) :
    (c.setText h text).kept = Function.update c.kept uri text := by
  obtain ⟨f, hf, -⟩ := valid.file uri h hu
  funext v
  by_cases hv : v = uri
  · subst hv
    simp [kept, hu, cached_setText hf]
  · rw [Function.update_of_ne hv, kept, kept, get?_setText]
    refine Option.bind_congr fun k hk => ?_
    have : h ≠ k := fun e => hv (valid.distinct v uri h (e ▸ hk) hu)
    rw [cached_setText hf, if_neg this]

theorem kept_setText_of_stale (stale : ∀ uri, c.get? uri ≠ some h) (text : Option String) :
    (c.setText h text).kept = c.kept := by
  funext v
  rw [kept, kept, get?_setText]
  refine Option.bind_congr fun k hk => ?_
  have : h ≠ k := fun e => stale v (e ▸ hk)
  rw [cached, files_setText, cached]
  simp [this]

theorem stale_or_current (c : FileCache) (h : Handle) :
    (∀ uri, c.get? uri ≠ some h) ∨ ∃ uri, c.get? uri = some h := by
  by_cases current : ∃ uri, c.get? uri = some h
  · exact Or.inr current
  · exact Or.inl fun uri hu => current ⟨uri, hu⟩

/-! ## Loading -/

theorem load_of_none (hf : c.files[h]? = none) (read : Reader) :
    c.load read h = (.ok none, c) := by
  simp [load, hf]

theorem load_fst (hf : c.files[h]? = some f) (read : Reader) :
    (c.load read h).1.toOption.join = f.text.or (textAt read f.path) := by
  simp only [load, hf, textAt]
  cases f.text with
  | some text => rfl
  | none =>
    cases read f.path with
    | error fault => rfl
    | ok bytes =>
      dsimp only
      cases textOf bytes <;> rfl

theorem load_snd (hf : c.files[h]? = some f) (read : Reader) :
    (c.load read h).2 = c ∧ f.text.or (textAt read f.path) = f.text ∨
      (c.load read h).2 = c.setText h (f.text.or (textAt read f.path)) := by
  simp only [load, hf, textAt]
  cases f.text with
  | some text => exact Or.inl ⟨rfl, rfl⟩
  | none =>
    cases read f.path with
    | error fault => exact Or.inl ⟨rfl, rfl⟩
    | ok bytes =>
      dsimp only
      cases textOf bytes with
      | none => exact Or.inl ⟨rfl, rfl⟩
      | some text => exact Or.inr rfl

theorem Valid.load (valid : c.Valid) (read : Reader) (h : Handle) : (c.load read h).2.Valid := by
  cases hf : c.files[h]? with
  | none => rw [load_of_none hf]; exact valid
  | some f =>
    rcases load_snd hf read with ⟨hc, -⟩ | hc <;> rw [hc]
    · exact valid
    · exact valid.setText h _

/-- A load through an address shows under this address alone. -/
theorem Valid.kept_load (valid : c.Valid) (hu : c.get? uri = some h) (hf : c.files[h]? = some f)
    (read : Reader) :
    (c.load read h).2.kept =
      Function.update c.kept uri ((c.kept uri).or (textAt read f.path)) := by
  rw [kept_of_get? hu hf]
  rcases load_snd hf read with ⟨hc, same⟩ | hc
  · rw [hc, same, ← kept_of_get? hu hf, Function.update_eq_self]
  · rw [hc, valid.kept_setText hu]

theorem kept_load_of_stale (stale : ∀ uri, c.get? uri ≠ some h) (read : Reader) :
    (c.load read h).2.kept = c.kept := by
  cases hf : c.files[h]? with
  | none => rw [load_of_none hf]
  | some f =>
    rcases load_snd hf read with ⟨hc, -⟩ | hc <;> rw [hc]
    exact kept_setText_of_stale stale _

/-! ## Obtaining and dropping -/

/-- The cache after a new file was handed out. -/
def handOut (c : FileCache) (uri path : String) (language : Language) : FileCache :=
  ⟨c.files.push { path, language }, c.current.insert uri c.files.size⟩

variable {path : String} {language : Language}

theorem get?_handOut :
    (c.handOut uri path language).get? v = if v = uri then some c.files.size else c.get? v :=
  lookup_insert c.current uri v c.files.size

theorem files_handOut (k : Handle) :
    (c.handOut uri path language).files[k]? =
      if k = c.files.size then some { path, language } else c.files[k]? := by
  rw [handOut, Array.getElem?_push]

theorem get?_remove : (c.remove uri).get? v = if v = uri then none else c.get? v :=
  lookup_erase c.current uri v

theorem obtain_of_get? (hu : c.get? uri = some h) : c.obtain uri = .ok (h, c) := by
  simp [obtain, hu]

theorem obtain_of_error {e : FileError} (hu : c.get? uri = none) (he : fileAt uri = .error e) :
    c.obtain uri = .error e := by
  simp [obtain, hu, he, Except.map]

theorem obtain_of_fileAt (hu : c.get? uri = none) (hf : fileAt uri = .ok (path, language)) :
    c.obtain uri = .ok (c.files.size, c.handOut uri path language) := by
  simp [obtain, hu, hf, Except.map, handOut]

theorem Valid.ne_size (valid : c.Valid) (hu : c.get? uri = some h) : h ≠ c.files.size := by
  obtain ⟨f, hf, -⟩ := valid.file uri h hu
  exact Nat.ne_of_lt (Array.getElem?_eq_some_iff.1 hf).1

theorem Valid.handOut (valid : c.Valid) (hf : fileAt uri = .ok (path, language)) :
    (c.handOut uri path language).Valid := by
  refine ⟨fun v k hv => ?_, fun v w k hv hw => ?_⟩
  · rw [get?_handOut] at hv
    rw [files_handOut]
    by_cases he : v = uri
    · subst he
      obtain rfl : c.files.size = k := by simpa using hv
      exact ⟨{ path, language }, by simp, hf⟩
    · rw [if_neg he] at hv
      rw [if_neg (valid.ne_size hv)]
      exact valid.file v k hv
  · rw [get?_handOut] at hv hw
    by_cases hev : v = uri <;> by_cases hew : w = uri
    · rw [hev, hew]
    · rw [if_pos hev] at hv; rw [if_neg hew] at hw
      exact absurd (Option.some.inj hv).symm (valid.ne_size hw)
    · rw [if_neg hev] at hv; rw [if_pos hew] at hw
      exact absurd (Option.some.inj hw).symm (valid.ne_size hv)
    · rw [if_neg hev] at hv; rw [if_neg hew] at hw
      exact valid.distinct v w k hv hw

theorem Valid.kept_handOut (valid : c.Valid) (hu : c.get? uri = none) :
    (c.handOut uri path language).kept = c.kept := by
  funext v
  simp only [kept, get?_handOut]
  by_cases he : v = uri
  · subst he
    simp [hu, cached, files_handOut]
  · rw [if_neg he]
    refine Option.bind_congr fun k hk => ?_
    rw [cached, files_handOut, if_neg (valid.ne_size hk), cached]

/-- What is known of a file that has been obtained, and of the cache that it was obtained from. -/
structure Obtained (c : FileCache) (uri : String) (h : Handle) (c' : FileCache) : Prop where
  valid : c'.Valid
  kept : c'.kept = c.kept
  current : c'.get? uri = some h

theorem Valid.obtain (valid : c.Valid) {c' : FileCache} (hc : c.obtain uri = .ok (h, c')) :
    c.Obtained uri h c' := by
  cases hu : c.get? uri with
  | some k =>
    rw [obtain_of_get? hu] at hc
    cases hc
    exact ⟨valid, rfl, hu⟩
  | none =>
    cases hf : fileAt uri with
    | error e => rw [obtain_of_error hu hf] at hc; cases hc
    | ok source =>
      rw [obtain_of_fileAt hu hf] at hc
      cases hc
      exact ⟨valid.handOut hf, valid.kept_handOut hu, by simp [get?_handOut]⟩

theorem Valid.obtain_isOk (valid : c.Valid) (uri : String) :
    (c.obtain uri).isOk = (fileAt uri).isOk := by
  cases hu : c.get? uri with
  | some k =>
    obtain ⟨f, -, hf⟩ := valid.file uri k hu
    rw [obtain_of_get? hu, hf]
    rfl
  | none =>
    cases hf : fileAt uri with
    | error e => rw [obtain_of_error hu hf]; rfl
    | ok source => rw [obtain_of_fileAt hu hf]; rfl

theorem Valid.invalidate (valid : c.Valid) (uri : String) : (c.invalidate uri).Valid := by
  unfold FileCache.invalidate
  split
  · exact valid.setText _ none
  · exact valid

theorem Valid.kept_invalidate (valid : c.Valid) (uri : String) :
    (c.invalidate uri).kept = Function.update c.kept uri none := by
  unfold FileCache.invalidate
  split
  · rename_i h hu
    exact valid.kept_setText hu none
  · rename_i hu
    have : c.kept uri = none := by simp [kept, hu]
    rw [← this, Function.update_eq_self]

theorem Valid.remove (valid : c.Valid) (uri : String) : (c.remove uri).Valid := by
  have sub : ∀ {v k}, (c.remove uri).get? v = some k → c.get? v = some k := fun {v k} hv => by
    rw [get?_remove] at hv
    exact (Option.ite_none_left_eq_some.1 hv).2
  exact ⟨fun v k hv => valid.file v k (sub hv), fun v w k hv hw =>
    valid.distinct v w k (sub hv) (sub hw)⟩

theorem kept_remove (uri : String) : (c.remove uri).kept = Function.update c.kept uri none := by
  funext v
  rw [kept, get?_remove]
  by_cases hv : v = uri
  · simp [hv]
  · rw [Function.update_of_ne hv, if_neg hv]
    rfl

/-! ## Sources -/

/-- The language and text at an address: the text that is kept, or else the one on disk. -/
def view (c : FileCache) (read : Reader) (uri : String) : Option (Language × String) :=
  match fileAt uri with
  | .error _ => none
  | .ok (path, language) => ((c.kept uri).or (textAt read path)).map (language, ·)

theorem view_eq_some {text : String} (seen : c.view read uri = some (language, text)) :
    ∃ path, fileAt uri = .ok (path, language) ∧
      (c.kept uri = some text ∨ textAt read path = some text) := by
  unfold view at seen
  cases hf : fileAt uri with
  | error e => rw [hf] at seen; cases seen
  | ok source =>
    obtain ⟨path, language'⟩ := source
    rw [hf] at seen
    obtain ⟨text', found, he⟩ := Option.map_eq_some_iff.1 seen
    cases he
    exact ⟨path, rfl, (Option.or_eq_some_iff.1 found).imp_right And.right⟩

theorem text_view (hf : fileAt uri = .ok (path, language)) :
    (c.view read uri).map (·.2) = (c.kept uri).or (textAt read path) := by
  rw [view, hf, Option.map_map]
  exact Option.map_id'

theorem language?_load (hf : c.files[h]? = some f) (read : Reader) :
    (c.load read h).2.language? h = some f.language := by
  rcases load_snd hf read with ⟨hc, -⟩ | hc <;> rw [hc, language?]
  · rw [hf]; rfl
  · rw [files_setText, hf]; simp

theorem source_of_obtain {c' : FileCache} (hc : c.obtain uri = .ok (h, c'))
    (hf : c'.files[h]? = some f) (read : Reader) :
    c.source read uri =
      (((c'.load read h).1.toOption.join).map (f.language, ·), (c'.load read h).2) := by
  have lang := language?_load hf read
  simp only [source, hc]
  generalize c'.load read h = loaded at lang ⊢
  obtain ⟨result, c''⟩ := loaded
  rcases result with e | _ | text
  · rfl
  · rfl
  · simp only [lang]; rfl

/-- What asking for a source gives and leaves behind. -/
structure Sourced (c : FileCache) (read : Reader) (uri : String)
    (r : Option (Language × String) × FileCache) : Prop where
  found : r.1 = c.view read uri
  valid : r.2.Valid
  kept : r.2.kept = Function.update c.kept uri ((c.view read uri).map (·.2))

theorem Valid.source (valid : c.Valid) (read : Reader) (uri : String) :
    c.Sourced read uri (c.source read uri) := by
  have ok := valid.obtain_isOk uri
  cases hc : c.obtain uri with
  | error e =>
    have error : ∃ e, fileAt uri = .error e := by
      cases hf : fileAt uri with
      | error e => exact ⟨e, rfl⟩
      | ok source => rw [hc, hf] at ok; cases ok
    obtain ⟨e', hf⟩ := error
    have none : c.kept uri = none := by rw [kept, valid.get?_of_error hf]; rfl
    have nothing : c.view read uri = .none := by rw [view, hf]
    refine ⟨?_, ?_, ?_⟩ <;> simp only [FileCache.source, hc, nothing, Option.map_none]
    · exact valid
    · rw [← none, Function.update_eq_self]
  | ok got =>
    obtain ⟨h, c'⟩ := got
    have ob := valid.obtain hc
    obtain ⟨f, hf, hat⟩ := ob.valid.file uri h ob.current
    have seen : c.view read uri = (f.text.or (textAt read f.path)).map (f.language, ·) := by
      rw [view, hat, ← ob.kept, kept_of_get? ob.current hf]
    rw [source_of_obtain hc hf]
    refine ⟨?_, ob.valid.load read h, ?_⟩
    · rw [seen, load_fst hf]
    · rw [text_view hat, ← ob.kept]
      exact ob.valid.kept_load ob.current hf read

theorem get?_load (read : Reader) (h : Handle) : (c.load read h).2.get? v = c.get? v := by
  cases hf : c.files[h]? with
  | none => rw [load_of_none hf]
  | some f =>
    rcases load_snd hf read with ⟨hc, -⟩ | hc
    · rw [hc]
    · rw [hc, get?_setText]

theorem get?_source (read : Reader) (hv : v ≠ uri) : (c.source read uri).2.get? v = c.get? v := by
  have got : ∀ h c', c.obtain uri = .ok (h, c') → c'.get? v = c.get? v := fun h c' hc => by
    cases hu : c.get? uri with
    | some k =>
      rw [obtain_of_get? hu] at hc
      cases hc
      rfl
    | none =>
      cases hf : fileAt uri with
      | error e => rw [obtain_of_error hu hf] at hc; cases hc
      | ok source =>
        rw [obtain_of_fileAt hu hf] at hc
        cases hc
        rw [get?_handOut, if_neg hv]
  unfold source
  split
  · rfl
  · rename_i h c' hc
    have loaded := get?_load (c := c') (v := v) read h
    split
    · rename_i hl
      rw [hl] at loaded
      exact loaded.trans (got h c' hc)
    · rename_i hl
      rw [hl] at loaded
      exact loaded.trans (got h c' hc)

/-! ## Caches that differ by loads -/

/-- `c'` is as `c`, but for texts that were loaded. -/
structure Loads (read : Reader) (c c' : FileCache) : Prop where
  valid : c'.Valid
  kept : ∀ uri, c'.kept uri = c.kept uri ∨ c'.kept uri = (c.view read uri).map (·.2)

/-- Loads do not change what is seen. -/
theorem Loads.view {c' : FileCache} (loads : Loads read c c') (uri : String) :
    c'.view read uri = c.view read uri := by
  have hk := loads.kept uri
  cases hf : fileAt uri with
  | error e => simp only [FileCache.view, hf]
  | ok source =>
    rw [text_view hf] at hk
    simp only [FileCache.view, hf]
    rcases hk with hk | hk <;> rw [hk]
    rw [Option.or_assoc, Option.or_self]

theorem Loads.kept_of_some (valid : c.Valid) {c' : FileCache} (loads : Loads read c c')
    {text : String} (hk : c.kept uri = some text) : c'.kept uri = some text := by
  rcases loads.kept uri with same | seen
  · rw [same, hk]
  · cases hf : fileAt uri with
    | error e =>
      rw [FileCache.kept, valid.get?_of_error hf] at hk
      cases hk
    | ok source => rw [seen, text_view hf, hk, Option.some_or]

theorem Valid.loads_refl (valid : c.Valid) (read : Reader) : Loads read c c :=
  ⟨valid, fun _ => Or.inl rfl⟩

theorem Loads.trans {c' c'' : FileCache} (first : Loads read c c') (second : Loads read c' c'') :
    Loads read c c'' := by
  refine ⟨second.valid, fun uri => ?_⟩
  rcases second.kept uri with hk | hk
  · rw [hk]
    exact first.kept uri
  · rw [hk, first.view]
    exact Or.inr rfl

theorem Sourced.loads {r : Option (Language × String) × FileCache} (got : c.Sourced read uri r) :
    Loads read c r.2 := by
  refine ⟨got.valid, fun v => ?_⟩
  rw [got.kept]
  by_cases hv : v = uri
  · subst hv; exact Or.inr (Function.update_self ..)
  · exact Or.inl (Function.update_of_ne hv ..)

theorem Valid.loads_obtain (valid : c.Valid) {c' : FileCache} (hc : c.obtain uri = .ok (h, c'))
    (read : Reader) : Loads read c c' := by
  have ob := valid.obtain hc
  exact ⟨ob.valid, fun v => Or.inl (by rw [ob.kept])⟩

theorem Valid.loads_load (valid : c.Valid) (read : Reader) (h : Handle) :
    Loads read c (c.load read h).2 := by
  refine ⟨valid.load read h, fun v => ?_⟩
  rcases c.stale_or_current h with stale | ⟨uri, hu⟩
  · exact Or.inl (by rw [kept_load_of_stale stale])
  · obtain ⟨f, hf, hat⟩ := valid.file uri h hu
    rw [valid.kept_load hu hf]
    by_cases hv : v = uri
    · subst hv
      exact Or.inr (by rw [Function.update_self, text_view hat])
    · exact Or.inl (Function.update_of_ne hv ..)

end FileCache

end CodeIndex
