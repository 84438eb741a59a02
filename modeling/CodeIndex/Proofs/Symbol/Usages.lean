import CodeIndex.Proofs.Symbol.References

/-!
# What a document contributes

A word can be captured several times, under labels that tell a kind and under labels that tell none.
All captures of one span make one usage.

**The usages** are built up capture by capture. The invariant (`Entry.Reports`) says of each usage
that the captures read so far bear it out: it has the text of the first of them at its span, and the
first kind that one of them tells. One more capture at a span that is already there can only fill in
a kind (`reports_addUsage`).

**Theorem (`ofCaptures_reports`).** For all lists of captures: the definitions are the symbols of
the outline in order, each at its name. The usages stand one at each captured span that is not a
definition's, in the order in which these are first met, with the text of the first capture there
and the first kind told there.
-/

namespace CodeIndex

open Syntax (Capture)

/-- The captures of a span, in their order. -/
def capturesAt (cs : List Capture) (s : Span) : List Capture := cs.filter (·.span = s)

/-- The first kind that a capture in a list tells. -/
def firstKind? (cs : List Capture) : Option SymbolKind :=
  cs.findSome? fun c => Label.usageKind? c.label.toList

/-- The captures bear out the entry: at its span, the first one has its name for its text, and the
first one to tell a kind tells its kind. -/
structure Entry.Reports (uri : String) (cs : List Capture) (e : Entry) : Prop where
  uri : e.location.uri = uri
  name : (capturesAt cs e.location.span).head?.map (·.text) = some e.name
  kind : e.kind = firstKind? (capturesAt cs e.location.span)

section

variable {uri : String} {cs : List Capture} {c : Capture} {e : Entry} {s : Span}

theorem capturesAt_concat_of_ne (other : s ≠ c.span) :
    capturesAt (cs ++ [c]) s = capturesAt cs s := by
  simp [capturesAt, other.symm]

theorem capturesAt_concat_self : capturesAt (cs ++ [c]) c.span = capturesAt cs c.span ++ [c] := by
  simp [capturesAt]

theorem capturesAt_eq_nil (new : s ∉ cs.map (·.span)) : capturesAt cs s = [] := by
  refine List.filter_eq_nil_iff.2 fun c hc here => new ?_
  exact List.mem_map.2 ⟨c, hc, of_decide_eq_true here⟩

theorem firstKind?_concat (cs : List Capture) (c : Capture) :
    firstKind? (cs ++ [c]) = (firstKind? cs).or (Label.usageKind? c.label.toList) := by
  simp [firstKind?, List.findSome?_append]

theorem Entry.Reports.concat_of_ne (h : e.Reports uri cs) (other : e.location.span ≠ c.span) :
    e.Reports uri (cs ++ [c]) := by
  have same := @capturesAt_concat_of_ne cs c _ other
  exact ⟨h.uri, same ▸ h.name, same ▸ h.kind⟩

/-- One more capture of its span fills in the kind of an entry, if it has none. -/
theorem Entry.Reports.concat (h : e.Reports uri cs) (here : e.location.span = c.span) :
    { e with kind := e.kind.or (Label.usageKind? c.label.toList) : Entry }.Reports uri
      (cs ++ [c]) := by
  obtain ⟨address, name, kind⟩ := h
  rw [here] at name kind
  refine ⟨address, ?_, ?_⟩
  · show (capturesAt (cs ++ [c]) e.location.span).head?.map (·.text) = some e.name
    rw [here, capturesAt_concat_self, List.head?_append]
    -- the span has been captured before, so the first capture stays the first
    cases first : (capturesAt cs c.span).head? with
    | none => simp [first] at name
    | some f => rwa [first] at name
  · show e.kind.or _ = firstKind? (capturesAt (cs ++ [c]) e.location.span)
    rw [here, capturesAt_concat_self, firstKind?_concat, kind]

theorem Entry.reports_first (new : c.span ∉ cs.map (·.span)) :
    Entry.Reports uri (cs ++ [c]) ⟨c.text, Label.usageKind? c.label.toList, uri, c.span⟩ := by
  have only : capturesAt (cs ++ [c]) c.span = [c] := by
    rw [capturesAt_concat_self, capturesAt_eq_nil new, List.nil_append]
  refine ⟨rfl, by rw [only]; rfl, ?_⟩
  rw [only, ← List.nil_append [c], firstKind?_concat]
  rfl

/-- **What one more capture does to the usages.** -/
theorem reports_addUsage {es : List Entry} (h : ∀ e ∈ es, e.Reports uri cs)
    (spans : es.map (·.location.span) = (cs.map (·.span)).eraseDups) :
    ∀ e ∈ addUsage uri es c, e.Reports uri (cs ++ [c]) := by
  intro e he
  simp only [addUsage] at he
  split at he
  · obtain ⟨u, hu, rfl⟩ := List.mem_map.1 he
    by_cases here : u.location.span = c.span
    · -- a kind that is there stays
      have filled := (h u hu).concat here
      cases known : u.kind with
      | none => simpa [here, known] using filled
      | some k =>
        rw [known, Option.some_or, ← known] at filled
        rw [if_neg (by simp)]
        exact filled
    · simpa [here] using (h u hu).concat_of_ne here
  · rename_i new
    have fresh : c.span ∉ cs.map (·.span) := by
      intro met
      rw [← List.mem_eraseDups, ← spans] at met
      obtain ⟨u, hu, here⟩ := List.mem_map.1 met
      exact new (List.any_eq_true.2 ⟨u, hu, decide_eq_true here⟩)
    rcases List.mem_append.1 he with old | added
    · have other : e.location.span ≠ c.span := by
        intro here
        have met := spans ▸ List.mem_map_of_mem old
        exact fresh (here ▸ List.mem_eraseDups.1 met)
      exact (h e old).concat_of_ne other
    · obtain rfl := List.mem_singleton.1 added
      exact Entry.reports_first fresh

theorem reports_foldl_addUsage (uri : String) (cs : List Capture) :
    ∀ e ∈ cs.foldl (addUsage uri) [], e.Reports uri cs := by
  induction cs using List.reverseRecOn with
  | nil => simp
  | append_singleton cs c ih =>
    rw [List.foldl_append, List.foldl_cons, List.foldl_nil]
    exact reports_addUsage ih (map_span_foldl_addUsage uri cs)

end

theorem capturesAt_filter {cs : List Capture} {s : Span} {declared : List Span}
    (kept : s ∉ declared) :
    capturesAt (cs.filter fun c => !declared.contains c.span) s = capturesAt cs s := by
  rw [capturesAt, List.filter_filter]
  refine List.filter_congr fun c _ => ?_
  by_cases here : c.span = s
  · simp [here, kept]
  · simp [here]

/-- The captures bear out all usages, also those captures that are left out elsewhere. -/
theorem reports_usagesOf (uri : String) (declared : List Span) (cs : List Capture) :
    ∀ e ∈ usagesOf uri declared cs, e.location.span ∉ declared ∧ e.Reports uri cs := by
  intro e he
  have spans := map_span_usagesOf uri declared cs
  have met := spans ▸ List.mem_map_of_mem he
  obtain ⟨c, hc, here⟩ := List.mem_map.1 (List.mem_eraseDups.1 met)
  have kept : e.location.span ∉ declared := by
    simpa [here] using (List.mem_filter.1 hc).2
  obtain ⟨address, name, kind⟩ := reports_foldl_addUsage uri _ e he
  rw [capturesAt_filter kept] at name kind
  exact ⟨kept, address, name, kind⟩

/-- **A document contributes the symbols of its outline as definitions and one usage for each span
that is captured and not a definition's.** The name of a usage is the text of the first capture at
its span, and its kind is the first that a capture there tells, if one does. -/
theorem ofCaptures_reports (uri : String) (outlineCaptures usageCaptures : List Capture) :
    let contribution := Contribution.ofCaptures uri outlineCaptures usageCaptures
    let symbols := Symbol.walkAll (outline outlineCaptures)
    (∀ (_ : Trees) (languageId text : String) (d : Document),
        Document.parse? languageId text = some d → d.captures .outline = outlineCaptures →
        d.captures .usages = usageCaptures → contributionOf uri languageId text = contribution) ∧
      contribution.definitions = symbols.map (fun s => ⟨s.name, some s.kind, uri, s.selection⟩) ∧
      (contribution.usages.map (·.location.span)).Nodup ∧
      (∀ u ∈ contribution.usages, ∀ d ∈ contribution.definitions,
        u.location.span ≠ d.location.span) ∧
      contribution.usages.map (·.location.span) =
        ((usageCaptures.map (·.span)).filter (· ∉ symbols.map (·.selection))).eraseDups ∧
      ∀ u ∈ contribution.usages, u.location.uri = uri ∧
        (usageCaptures.find? (·.span = u.location.span)).map (·.text) = some u.name ∧
        u.kind = (usageCaptures.filter (·.span = u.location.span)).findSome? fun c =>
          Label.usageKind? c.label.toList := by
  intro contribution symbols
  have declared : (definitionsOf uri outlineCaptures).map (·.location.span) =
      symbols.map (·.selection) := by
    rw [definitionsOf, List.map_map]
    rfl
  have spans : contribution.usages.map (·.location.span) =
      ((usageCaptures.map (·.span)).filter (· ∉ symbols.map (·.selection))).eraseDups := by
    refine (map_span_usagesOf uri _ usageCaptures).trans ?_
    rw [declared, List.filter_map]
    simp only [List.contains_eq_mem, decide_not]
    rfl
  have reports :=
    reports_usagesOf uri (contribution.definitions.map (·.location.span)) usageCaptures
  refine ⟨?_, rfl, ?_, ?_, spans, ?_⟩
  · rintro _ languageId text d parsed rfl rfl
    rw [contributionOf, parsed]
    rfl
  · rw [spans]
    exact nodup_eraseDups _
  · intro u hu d hd same
    exact (reports u hu).1 (same ▸ List.mem_map_of_mem hd)
  · intro u hu
    obtain ⟨address, name, kind⟩ := (reports u hu).2
    refine ⟨address, ?_, kind⟩
    rw [← name, capturesAt, List.head?_filter]

/-- A word that is captured as a usage, then as a call and as a type is a function, at the
place where it was met first. -/
example :
    let capture (label : String) (start : Nat) (text : String) : Capture :=
      ⟨label, ⟨⟨0, start⟩, ⟨0, start + 1⟩⟩, text⟩
    usagesOf "m" [] [capture "usage" 4 "f", capture "usage" 9 "x", capture "usage.function" 4 "f",
        capture "usage.class" 4 "f"] =
      [⟨"f", some .function, "m", ⟨⟨0, 4⟩, ⟨0, 5⟩⟩⟩, ⟨"x", none, "m", ⟨⟨0, 9⟩, ⟨0, 10⟩⟩⟩] := by
  decide +kernel

end CodeIndex
