import CodeIndex.Language.Document
import CodeIndex.Proofs.Lists

/-!
# Captures in document order

The matches of a query report nodes under labels, one node perhaps several times. Reports of one
label and one range of bytes are one capture, and captures are ordered by their spans.

**Assumption** (`Node.Grows`). In a tree, the places where nodes begin are ordered as lines and
columns just as they are as bytes, and so are those where they end.

**Theorem (`captures_in_order`).** Then each label and range of bytes that is reported makes one
capture, and there are no others. They stand in order of their starts, with the longer span
first where two start together, and in the order of their first reports where the spans are equal.
No two have the same label and span.

Under the assumption, ranges of bytes are equal where spans are, so that the captures of the first
reports are those of all reports without the repetitions (`map_firstReports`). Sorting is stable, so
captures that the order does not part stay in the order of first appearance (`filter_mergeSort`).
-/

namespace CodeIndex.Syntax

/-! ## The nodes of a tree -/

namespace Node

mutual

/-- What is known of a node and of all below it. -/
def infos : Node → List NodeInfo
  | mk i cs => i :: infosAll cs

def infosAll : List Node → List NodeInfo
  | [] => []
  | c :: cs => infos c ++ infosAll cs

end

theorem info_mem_infos (n : Node) : n.info ∈ n.infos := by
  cases n with
  | mk i cs => exact List.mem_cons_self

theorem infos_subset_infosAll {c : Node} {cs : List Node} (hc : c ∈ cs) :
    c.infos ⊆ infosAll cs := by
  induction cs with
  | nil => cases hc
  | cons d cs ih =>
    rw [infosAll]
    rcases List.mem_cons.1 hc with rfl | hc
    · exact List.subset_append_left _ _
    · exact fun i hi => List.mem_append_right _ (ih hc hi)

theorem infos_subset_of_child {n c : Node} (hc : c ∈ n.children) : c.infos ⊆ n.infos := by
  cases n with
  | mk i cs => exact fun j hj => List.mem_cons_of_mem _ (infos_subset_infosAll hc hj)

mutual

theorem infos_subset_of_mem_nodes {k d : Nat} {n : Node} (t : Node) (hn : (k, n) ∈ t.nodes d) :
    n.infos ⊆ t.infos := by
  cases t with
  | mk i cs =>
    rw [nodes] at hn
    rcases List.mem_cons.1 hn with here | hn
    · obtain ⟨-, rfl⟩ := Prod.mk.inj here
      exact fun j hj => hj
    · exact fun j hj => List.mem_cons_of_mem _ (infos_subset_of_mem_nodesAll cs hn hj)

theorem infos_subset_of_mem_nodesAll {k d : Nat} {n : Node} (ts : List Node)
    (hn : (k, n) ∈ nodesAll d ts) : n.infos ⊆ infosAll ts := by
  cases ts with
  | nil => cases hn
  | cons t ts =>
    rw [nodesAll] at hn
    rw [infosAll]
    intro j hj
    rcases List.mem_append.1 hn with hn | hn
    · exact List.mem_append_left _ (infos_subset_of_mem_nodes t hn hj)
    · exact List.mem_append_right _ (infos_subset_of_mem_nodesAll ts hn hj)

end

/-- The places where the nodes of a tree begin, and those where they end, are ordered alike as bytes
and as positions. -/
def Grows (root : Node) : Prop :=
  ∀ m ∈ root.infos, ∀ n ∈ root.infos,
    (m.startByte ≤ n.startByte ↔ m.span.start ≤ n.span.start) ∧
      (m.stopByte ≤ n.stopByte ↔ m.span.stop ≤ n.span.stop)

instance (root : Node) : Decidable root.Grows :=
  inferInstanceAs (Decidable (∀ m ∈ root.infos, ∀ n ∈ root.infos, _ ∧ _))

end Node

/-! ## Matches capture nodes of the tree -/

theorem mem_of_mem_picks {α : Type} {x : α} {later : List α} :
    ∀ {xs : List α}, (x, later) ∈ picks xs → x ∈ xs ∧ later ⊆ xs
  | y :: ys, h => by
    rw [picks] at h
    rcases List.mem_cons.1 h with here | h
    · obtain ⟨rfl, rfl⟩ := Prod.mk.inj here
      exact ⟨List.mem_cons_self, List.subset_cons_self _ _⟩
    · obtain ⟨hx, rest⟩ := mem_of_mem_picks h
      exact ⟨List.mem_cons_of_mem _ hx, fun z hz => List.mem_cons_of_mem _ (rest hz)⟩

mutual

theorem captures_matchesAt {m : Match} {r : Report} (s : Shape) (n : Node) (hm : m ∈ matchesAt s n)
    (hr : r ∈ m.captures) : r.2 ∈ n.infos := by
  cases s with
  | mk kind field labels shapes =>
    rw [matchesAt] at hm
    split at hm
    · obtain ⟨inner, hi, rfl⟩ := List.mem_map.1 hm
      rcases List.mem_append.1 hr with own | below
      · obtain ⟨label, -, rfl⟩ := List.mem_map.1 own
        exact n.info_mem_infos
      · obtain ⟨c, hc, found⟩ := captures_matchesAmong shapes n.children hi below
        exact Node.infos_subset_of_child hc found
    · cases hm

theorem captures_matchesAmong {m : Match} {r : Report} (ss : List Shape) (ns : List Node)
    (hm : m ∈ matchesAmong ss ns) (hr : r ∈ m.captures) : ∃ n ∈ ns, r.2 ∈ n.infos := by
  cases ss with
  | nil =>
    rw [matchesAmong] at hm
    obtain rfl := List.mem_singleton.1 hm
    cases hr
  | cons s ss =>
    simp only [matchesAmong, List.mem_flatMap, List.mem_map] at hm
    obtain ⟨⟨n, later⟩, picked, first, hf, rest, hs, rfl⟩ := hm
    obtain ⟨hn, after⟩ := mem_of_mem_picks (List.mem_of_mem_take picked)
    rcases List.mem_append.1 hr with here | there
    · exact ⟨n, hn, captures_matchesAt s n hf here⟩
    · obtain ⟨n', hn', found⟩ := captures_matchesAmong ss later hs there
      exact ⟨n', after hn', found⟩

end

/-- What a query reports of a tree. -/
def Query.reports (q : Query) (root : Node) : List Report := (q.matches root).flatMap (·.captures)

theorem Query.reports_mem {q : Query} {root : Node} {r : Report} (hr : r ∈ q.reports root) :
    r.2 ∈ root.infos := by
  obtain ⟨m, hm, hr⟩ := List.mem_flatMap.1 hr
  simp only [Query.matches, List.mem_map, List.mem_mergeSort, List.mem_flatMap] at hm
  obtain ⟨-, ⟨⟨k, n⟩, hn, ⟨s, i⟩, -, m', hm', rfl⟩, rfl⟩ := hm
  exact Node.infos_subset_of_mem_nodes root hn (captures_matchesAt s n hm' hr)

/-! ## First reports -/

section

variable {source : String} {root : Node} {rs : List Report} {a b c : Capture}

theorem firstReports_concat (rs : List Report) (r : Report) :
    firstReports (rs ++ [r]) =
      if ∃ k ∈ firstReports rs, Report.Same k r then firstReports rs
      else firstReports rs ++ [r] := by
  unfold firstReports
  rw [List.foldl_concat]
  split <;> rename_i met <;> simpa using met

theorem firstReports_subset : firstReports rs ⊆ rs := by
  induction rs using List.reverseRecOn with
  | nil => exact fun _ h => h
  | append_singleton rs r ih =>
    rw [firstReports_concat]
    split
    · exact fun k hk => List.mem_append_left _ (ih hk)
    · exact List.append_subset.2 ⟨fun k hk => List.mem_append_left _ (ih hk), by simp⟩

/-- Where `f` tells reports apart just as they are told apart, the first reports give what all give
without the repetitions. -/
theorem map_firstReports {β : Type} [DecidableEq β] {f : Report → β}
    (faithful : ∀ r ∈ rs, ∀ r' ∈ rs, f r = f r' ↔ Report.Same r r') :
    (firstReports rs).map f = (rs.map f).eraseDups := by
  induction rs using List.reverseRecOn with
  | nil => rfl
  | append_singleton rs r ih =>
    have ih := ih fun k hk k' hk' =>
      faithful k (List.mem_append_left _ hk) k' (List.mem_append_left _ hk')
    have met : (∃ k ∈ firstReports rs, Report.Same k r) ↔ f r ∈ rs.map f := by
      rw [← List.mem_eraseDups, ← ih, List.mem_map]
      exact exists_congr fun k => and_congr_right fun hk =>
        (faithful k (by simp [firstReports_subset hk]) r (by simp)).symm
    rw [firstReports_concat, List.map_append, List.map_singleton, eraseDups_concat]
    simp only [met]
    split
    · exact ih
    · rw [List.map_append, ih, List.map_singleton]

/-! ## Order -/

theorem Capture.before_iff : a.before b = true ↔
    a.span.start < b.span.start ∨ a.span.start = b.span.start ∧ b.span.stop ≤ a.span.stop := by
  simp [Capture.before]

theorem Capture.before_trans (h : a.before b = true) (h' : b.before c = true) :
    a.before c = true := by
  rw [before_iff] at *
  rcases h with h | ⟨h, longer⟩ <;> rcases h' with h' | ⟨h', longer'⟩
  · exact Or.inl (Position.lt_of_lt_of_le h (Position.le_of_lt h'))
  · exact Or.inl (h' ▸ h)
  · exact Or.inl (h ▸ h')
  · exact Or.inr ⟨h.trans h', Position.le_trans longer' longer⟩

theorem Capture.before_total (a b : Capture) : (a.before b || b.before a) = true := by
  rw [Bool.or_eq_true, before_iff, before_iff]
  by_cases h : a.span.start < b.span.start
  · exact Or.inl (Or.inl h)
  by_cases h' : b.span.start < a.span.start
  · exact Or.inr (Or.inl h')
  have together : a.span.start = b.span.start :=
    Position.le_antisymm (Position.not_lt.1 h') (Position.not_lt.1 h)
  rcases Position.le_total b.span.stop a.span.stop with longer | longer
  · exact Or.inl (Or.inr ⟨together, longer⟩)
  · exact Or.inr (Or.inr ⟨together.symm, longer⟩)

/-- `a` stands before `b`: it starts first, it is the longer one, or it has the same span and comes
first in `all`. -/
def Capture.Precedes (all : List Capture) (a b : Capture) : Prop :=
  a.span.start < b.span.start ∨
    a.span.start = b.span.start ∧ b.span.stop < a.span.stop ∨
    a.span = b.span ∧ all.idxOf a < all.idxOf b

theorem Capture.precedes_of_before {all : List Capture} (before : a.before b = true)
    (first : a.span = b.span → all.idxOf a < all.idxOf b) : Precedes all a b := by
  rcases before_iff.1 before with start | ⟨start, stop⟩
  · exact Or.inl start
  · by_cases longer : b.span.stop < a.span.stop
    · exact Or.inr (Or.inl ⟨start, longer⟩)
    · have same := Span.eq_of_ends start (Position.le_antisymm (Position.not_lt.1 longer) stop)
      exact Or.inr (Or.inr ⟨same, first same⟩)

/-- Captures that the order does not part stay in the order of first appearance. -/
theorem Capture.pairwise_precedes (all : List Capture) :
    (all.eraseDups.mergeSort before).Pairwise (Precedes all) := by
  have trans : ∀ a b c : Capture, a.before b → b.before c → a.before c := fun _ _ _ => before_trans
  have sorted := List.pairwise_mergeSort trans before_total all.eraseDups
  have groups : ∀ s : Span, ((all.eraseDups.mergeSort before).filter (·.span = s)).Pairwise
      fun a b => all.idxOf a < all.idxOf b := fun s => by
    rw [filter_mergeSort trans before_total]
    · exact (pairwise_idxOf_eraseDups all).filter _
    · intro a b ha hb
      have same : a.span = b.span := (of_decide_eq_true ha).trans (of_decide_eq_true hb).symm
      exact before_iff.2 (Or.inr ⟨by rw [same], same ▸ Position.le_refl _⟩)
  exact (sorted.and (pairwise_of_groups groups)).imp fun ⟨before, first⟩ =>
    precedes_of_before before first

/-! ## Captures of a tree -/

/-- `cs` are the captures of the reports `rs`, in document order. -/
structure InOrder (source : String) (rs : List Report) (cs : List Capture) : Prop where
  /-- All reports are captured, and nothing else. -/
  mem_iff : ∀ c, c ∈ cs ↔ ∃ r ∈ rs, c = ⟨r.1, r.2.span, r.2.textIn source⟩
  /-- Reports of one label and one range of bytes make one capture, and others make others. -/
  one_each : ∀ r ∈ rs, ∀ r' ∈ rs,
    Capture.ofReport source r = Capture.ofReport source r' ↔ Report.Same r r'
  ordered : cs.Pairwise (Capture.Precedes (rs.map (Capture.ofReport source)))
  distinct : cs.Pairwise fun a b => a.label ≠ b.label ∨ a.span ≠ b.span

theorem Node.Grows.span_eq_iff (grows : root.Grows) {m n : NodeInfo} (hm : m ∈ root.infos)
    (hn : n ∈ root.infos) :
    m.span = n.span ↔ m.startByte = n.startByte ∧ m.stopByte = n.stopByte := by
  obtain ⟨starts, stops⟩ := grows m hm n hn
  obtain ⟨starts', stops'⟩ := grows n hn m hm
  constructor
  · intro same
    rw [same] at starts stops starts' stops'
    have start := Position.le_refl n.span.start
    have stop := Position.le_refl n.span.stop
    exact ⟨Nat.le_antisymm (starts.2 start) (starts'.2 start),
      Nat.le_antisymm (stops.2 stop) (stops'.2 stop)⟩
  · rintro ⟨start, stop⟩
    exact Span.eq_of_ends
      (Position.le_antisymm (starts.1 (Nat.le_of_eq start)) (starts'.1 (Nat.le_of_eq start.symm)))
      (Position.le_antisymm (stops.1 (Nat.le_of_eq stop)) (stops'.1 (Nat.le_of_eq stop.symm)))

theorem Node.Grows.ofReport_eq_iff (grows : root.Grows) {r r' : Report} (hr : r.2 ∈ root.infos)
    (hr' : r'.2 ∈ root.infos) :
    Capture.ofReport source r = Capture.ofReport source r' ↔ Report.Same r r' := by
  constructor
  · intro same
    have span : r.2.span = r'.2.span := congrArg Capture.span same
    exact ⟨congrArg Capture.label same, (grows.span_eq_iff hr hr').1 span⟩
  · rintro ⟨label, bytes⟩
    have span := (grows.span_eq_iff hr hr').2 bytes
    simp only [Capture.ofReport, NodeInfo.textIn, label, span, bytes]

theorem Node.Grows.collect_eq (grows : root.Grows) (inside : ∀ r ∈ rs, r.2 ∈ root.infos) :
    Capture.collect source rs =
      (rs.map (Capture.ofReport source)).eraseDups.mergeSort Capture.before := by
  rw [Capture.collect, map_firstReports fun r hr r' hr' =>
    grows.ofReport_eq_iff (inside r hr) (inside r' hr')]

theorem Node.Grows.collect_inOrder (grows : root.Grows) (inside : ∀ r ∈ rs, r.2 ∈ root.infos) :
    InOrder source rs (Capture.collect source rs) := by
  have mem_iff : ∀ c, c ∈ Capture.collect source rs ↔
      ∃ r ∈ rs, c = ⟨r.1, r.2.span, r.2.textIn source⟩ := fun c => by
    rw [grows.collect_eq inside, List.mem_mergeSort, List.mem_eraseDups, List.mem_map]
    exact exists_congr fun r => and_congr_right fun _ => eq_comm
  refine ⟨mem_iff, fun r hr r' hr' => grows.ofReport_eq_iff (inside r hr) (inside r' hr'), ?_, ?_⟩
  · rw [grows.collect_eq inside]
    exact Capture.pairwise_precedes _
  · have nodup : (Capture.collect source rs).Nodup := by
      rw [grows.collect_eq inside]
      exact (List.mergeSort_perm _ _).nodup_iff.2 (nodup_eraseDups _)
    refine nodup.imp_of_mem fun {a b} ha hb apart => ?_
    obtain ⟨r, hr, rfl⟩ := (mem_iff a).1 ha
    obtain ⟨r', hr', rfl⟩ := (mem_iff b).1 hb
    by_cases label : r.1 = r'.1
    · refine Or.inr fun span => apart ?_
      have bytes := (grows.span_eq_iff (inside r hr) (inside r' hr')).1 span
      exact (grows.ofReport_eq_iff (inside r hr) (inside r' hr')).2 ⟨label, bytes⟩
    · exact Or.inl label

/-- **Each label and range of bytes that is reported makes one capture, with the node's span and
text, and there are no others. They stand in document order, those of one span in the order of their
first reports, and no two have the same label and span.** This holds of any reports of nodes of the
tree, and of what a query reports. -/
theorem captures_in_order (grows : root.Grows) (source : String) :
    (∀ rs : List Report, (∀ r ∈ rs, r.2 ∈ root.infos) →
      InOrder source rs (Capture.collect source rs)) ∧
    ∀ q : Query, InOrder source (q.reports root) (captures source root q) :=
  ⟨fun _ inside => grows.collect_inOrder inside,
    fun _ => grows.collect_inOrder fun _ => Query.reports_mem⟩

end

/-- Two lines with a word each, the second of which is also a statement by itself. -/
def Example.twoWords : Node :=
  let node (kind : String) (bytes : Nat × Nat) (span : Span) (index : Nat) (children : List Node) :
      Node :=
    .mk { kind, named := true, field := none, moreInField := false, startByte := bytes.1,
          stopByte := bytes.2, span, index } children
  node "module" (0, 4) ⟨⟨0, 0⟩, ⟨1, 2⟩⟩ 0 [
    node "identifier" (0, 1) ⟨⟨0, 0⟩, ⟨0, 1⟩⟩ 1 [],
    node "statement" (2, 4) ⟨⟨1, 0⟩, ⟨1, 2⟩⟩ 2 [node "identifier" (2, 4) ⟨⟨1, 0⟩, ⟨1, 2⟩⟩ 3 []]]

/-- The second word is reported before the first, under two labels, and once more through the
statement. -/
theorem captures_in_order_twoWords :
    let root := Example.twoWords
    let reports : List Report := root.infos.reverse.flatMap fun i => [("usage", i), ("word", i)]
    root.Grows ∧ (∀ r ∈ reports, r.2 ∈ root.infos) ∧
      InOrder "a\nbc" reports (Capture.collect "a\nbc" reports) := by
  intro root reports
  have grows : root.Grows := by decide
  have inside : ∀ r ∈ reports, r.2 ∈ root.infos := by decide
  exact ⟨grows, inside, (captures_in_order grows "a\nbc").1 reports inside⟩

end CodeIndex.Syntax
