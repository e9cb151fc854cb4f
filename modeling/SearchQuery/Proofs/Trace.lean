import SearchQuery.Proofs.Lowering.Height
import SearchQuery.Proofs.Number.Canonical

/-!
What a trace shows. Each node has one line, which starts with the name of its kind, and the indent of
a line tells how far down its node is. A trace is therefore cut into lines, the lines into indents
and headings, and the headings are put back under each other: the children of a node are the lines
below it, up to the first one that is not indented further. Main statement: trees with the same
trace have the same shape, whatever their texts look like, as long as no text goes over two lines.
-/

namespace SearchQuery

open Number (Single)

/-! ## Shapes -/

namespace Tree

/-- What a node is, its texts apart. -/
inductive Kind
  | term
  | phrase
  | wildcard
  | fuzzy
  | range
  | scope
  | group (junction : Junction)
  | boost (value : Single)
  | prohibited
  | required
deriving DecidableEq

/-- What is at each place of a tree, its texts apart. -/
inductive Shape
  | node (kind : Kind) (children : List Shape)

/-- The kind of a node. -/
def kind : Tree → Kind
  | atom _ (.term _) => .term
  | atom _ (.phrase ..) => .phrase
  | atom _ (.wildcard _) => .wildcard
  | atom _ (.fuzzy ..) => .fuzzy
  | atom _ (.range ..) => .range
  | scope .. => .scope
  | group junction _ => .group junction
  | boost value _ => .boost value
  | prohibited _ => .prohibited
  | required _ => .required

mutual

/-- The shape of a tree: the kind of every node, and its children in order. -/
def shape : Tree → Shape
  | atom field a => .node (kind (atom field a)) []
  | scope field child => .node (kind (scope field child)) [shape child]
  | group junction children => .node (kind (group junction children)) (shapes children)
  | boost value child => .node (kind (boost value child)) [shape child]
  | prohibited child => .node (kind (prohibited child)) [shape child]
  | required child => .node (kind (required child)) [shape child]

def shapes : List Tree → List Shape
  | [] => []
  | tree :: rest => shape tree :: shapes rest

end

theorem shapes_eq (ts : List Tree) : shapes ts = ts.map shape := by
  induction ts with
  | nil => rfl
  | cons t ts ih => rw [shapes, List.map_cons, ih]

theorem shape_eq (t : Tree) : t.shape = .node t.kind (t.children.map shape) := by
  cases t with
  | group junction ts => rw [shape, shapes_eq, children]
  | _ => rw [shape]; rfl

end Tree

/-- The texts of an atom. An open bound is none. -/
def Atom.texts : Atom → List String
  | term text | phrase text _ | wildcard text | fuzzy text _ => [text]
  | range lower upper _ _ => lower.toList ++ upper.toList

theorem Junction.name_injective {j j' : Junction} (h : j.name = j'.name) : j = j' := by
  rcases j with _ | _ | _ | (_ | _) <;> rcases j' with _ | _ | _ | (_ | _) <;>
    simp [name, Operator.name] at h ⊢

namespace Tree

/-- The texts and field names that stand at a node. -/
def ownTexts : Tree → List String
  | atom field a => field.toList ++ a.texts
  | scope field _ => [field]
  | _ => []

/-- Trees whose nodes each have one line: no text or field name holds a line break, and every boost
is finite. -/
inductive OneLine : Tree → Prop
  | node {t : Tree} (texts : ∀ text ∈ t.ownTexts, '\n' ∉ text.toList)
      (boost : ∀ value, t.kind = .boost value → value.isFinite = true)
      (children : ∀ child ∈ t.children, OneLine child) : OneLine t

/-! ## Headings -/

/-- The name of a kind. -/
def Kind.label : Kind → String
  | term => "TERM"
  | phrase => "PHRASE"
  | wildcard => "WILDCARD"
  | fuzzy => "FUZZY"
  | range => "RANGE"
  | scope => "FIELD"
  | group _ => "BOOLEAN"
  | boost _ => "BOOST"
  | prohibited => "PROHIBITED"
  | required => "REQUIRED"

/-- What follows the name of the kind on the line of a node. -/
def detail : Tree → String
  | atom field a => " " ++ (field.map (· ++ ":")).getD "" ++ a.describe
  | scope field _ => " " ++ field
  | group junction _ => " " ++ junction.name
  | boost value _ => " " ++ String.ofList value.canonical
  | prohibited _ | required _ => ""

/-- The line of a node. -/
def heading (t : Tree) : String := t.kind.label ++ t.detail

theorem outlineAll_eq (depth : Nat) (ts : List Tree) :
    outlineAll depth ts = ts.flatMap (outline depth) := by
  induction ts with
  | nil => rw [outlineAll, List.flatMap_nil]
  | cons t ts ih => rw [outlineAll, List.flatMap_cons, ih]

/-- The line of a node stands before those of its children, which are one level further down. -/
theorem outline_eq (depth : Nat) (t : Tree) :
    t.outline depth = (depth, t.heading) :: t.children.flatMap (outline (depth + 1)) := by
  cases t with
  | atom field a =>
    have hlabel : a.label = (atom field a).kind.label := by cases a <;> rfl
    rw [outline, heading, detail, ← String.append_assoc, ← String.append_assoc, hlabel]
    rfl
  | scope field t =>
    rw [outline, heading, detail, ← String.append_assoc, children, List.flatMap_singleton]
    rfl
  | group junction ts =>
    rw [outline, heading, detail, ← String.append_assoc, children, outlineAll_eq]
    rfl
  | boost value t =>
    rw [outline, heading, detail, ← String.append_assoc, children, List.flatMap_singleton]
    rfl
  | prohibited t =>
    rw [outline, children, List.flatMap_singleton]
    rfl
  | required t =>
    rw [outline, children, List.flatMap_singleton]
    rfl

theorem label_chars (kind : Kind) :
    ∀ c ∈ kind.label.toList, (c != ' ') = true ∧ c ≠ '\n' := by
  cases kind <;> simp [Kind.label]

theorem takeWhile_detail (t : Tree) : t.detail.toList.takeWhile (· != ' ') = [] := by
  cases t <;> simp [detail]

/-- The line of a node shows the name of its kind and what follows it. -/
theorem heading_inj {t u : Tree} (h : t.heading = u.heading) :
    t.kind.label = u.kind.label ∧ t.detail = u.detail := by
  have htext := congrArg String.toList h
  rw [heading, heading, String.toList_append, String.toList_append] at htext
  obtain ⟨hlabel, hdetail⟩ := List.append_inj_of_stop (fun c hc => (label_chars t.kind c hc).1)
    (fun c hc => (label_chars u.kind c hc).1) t.takeWhile_detail u.takeWhile_detail htext
  exact ⟨String.toList_inj.mp hlabel, String.toList_inj.mp hdetail⟩

/-- The name of a kind leaves open how a group is joined and how large a boost is. -/
theorem Kind.cases_of_label {k k' : Kind} (h : k.label = k'.label) :
    k = k' ∨ (∃ j j', k = .group j ∧ k' = .group j') ∨ ∃ v v', k = .boost v ∧ k' = .boost v' := by
  cases k <;> cases k' <;> simp [label] at h ⊢

theorem detail_of_kind_group {t : Tree} {junction : Junction} (h : t.kind = .group junction) :
    t.detail = " " ++ junction.name := by
  cases t with
  | atom field a => cases a <;> cases h
  | group j ts =>
    cases h
    rfl
  | _ => cases h

theorem detail_of_kind_boost {t : Tree} {value : Single} (h : t.kind = .boost value) :
    t.detail = " " ++ String.ofList value.canonical := by
  cases t with
  | atom field a => cases a <;> cases h
  | boost b t =>
    cases h
    rfl
  | _ => cases h

/-- The line of a node shows its kind, a group by the name of its junction and a boost by digits that
read back. -/
theorem kind_of_heading {t u : Tree} (ht : ∀ value, t.kind = .boost value → value.isFinite = true)
    (hu : ∀ value, u.kind = .boost value → value.isFinite = true)
    (h : t.heading = u.heading) : t.kind = u.kind := by
  obtain ⟨hlabel, hdetail⟩ := heading_inj h
  rcases Kind.cases_of_label hlabel with hkind | ⟨j, j', hj, hj'⟩ | ⟨v, v', hv, hv'⟩
  · exact hkind
  · rw [detail_of_kind_group hj, detail_of_kind_group hj', String.append_right_inj] at hdetail
    rw [hj, hj', Junction.name_injective hdetail]
  · rw [detail_of_kind_boost hv, detail_of_kind_boost hv', String.append_right_inj,
      String.ofList_inj] at hdetail
    rw [hv, hv', Single.canonical_injective (ht v hv) (hu v' hv') hdetail]

/-! ## Outlines -/

/-- The lines after those of a tree at a depth: the first of them is not below its root. -/
def Outside (depth : Nat) (rest : List (Nat × String)) : Prop :=
  ∀ line, rest.head? = some line → line.1 ≤ depth

theorem head?_outlines (depth : Nat) (t : Tree) (ts : List Tree) (rest : List (Nat × String)) :
    ((t :: ts).flatMap (outline depth) ++ rest).head? = some (depth, t.heading) := by
  rw [List.flatMap_cons, outline_eq]
  rfl

/-- After one of several trees come the others, which start at the same depth. -/
theorem Outside.outlines {depth : Nat} {rest : List (Nat × String)} (h : Outside depth rest)
    (ts : List Tree) : Outside (depth + 1) (ts.flatMap (outline (depth + 1)) ++ rest) := by
  intro line hline
  cases ts with
  | nil => exact Nat.le_succ_of_le (h line hline)
  | cons t ts =>
    rw [head?_outlines] at hline
    cases hline
    exact Nat.le_refl _

/-- The lines of a tree show its shape and where they end. -/
def Told (t : Tree) : Prop :=
  ∀ ⦃depth : Nat⦄ ⦃u : Tree⦄ ⦃rest rest' : List (Nat × String)⦄, u.OneLine →
    Outside depth rest → Outside depth rest' →
    t.outline depth ++ rest = u.outline depth ++ rest' → t.shape = u.shape ∧ rest = rest'

/-- The lines of several trees side by side show how many trees there are: another one would start a
level further down than what follows. -/
theorem shapes_of_outlines {depth : Nat} {ts us : List Tree} {rest rest' : List (Nat × String)}
    (hts : ∀ t ∈ ts, t.Told) (hus : ∀ u ∈ us, u.OneLine) (hrest : Outside depth rest)
    (hrest' : Outside depth rest')
    (h : ts.flatMap (outline (depth + 1)) ++ rest = us.flatMap (outline (depth + 1)) ++ rest') :
    ts.map shape = us.map shape ∧ rest = rest' := by
  induction ts generalizing us with
  | nil =>
    cases us with
    | nil => exact ⟨rfl, h⟩
    | cons u us =>
      have hhead := head?_outlines (depth + 1) u us rest'
      rw [← h] at hhead
      have hle := hrest _ hhead
      omega
  | cons t ts ih =>
    cases us with
    | nil =>
      have hhead := head?_outlines (depth + 1) t ts rest
      rw [h] at hhead
      have hle := hrest' _ hhead
      omega
    | cons u us =>
      rw [List.forall_mem_cons] at hts hus
      rw [List.flatMap_cons, List.flatMap_cons, List.append_assoc, List.append_assoc] at h
      obtain ⟨hshape, hothers⟩ := hts.1 hus.1 (hrest.outlines ts) (hrest'.outlines us) h
      obtain ⟨hshapes, hend⟩ := ih hts.2 hus.2 hothers
      exact ⟨by rw [List.map_cons, List.map_cons, hshape, hshapes], hend⟩

/-- The first line of a tree shows the kind of its root, and the lines below show its children. -/
theorem OneLine.told {t : Tree} (h : t.OneLine) : t.Told := by
  -- The other tree is arbitrary, so the induction is on the first one alone, and what follows the
  -- lines is a part of the statement because the lines of a child are followed by its siblings'.
  induction h with
  | @node t _ htboost _ ih =>
    intro depth u rest rest' hu hrest hrest' hlines
    obtain ⟨-, huboost, huchildren⟩ := hu
    rw [outline_eq, outline_eq, List.cons_append, List.cons_append] at hlines
    obtain ⟨hfirst, hbelow⟩ := List.cons.inj hlines
    have hkind := kind_of_heading htboost huboost (Prod.mk.inj hfirst).2
    obtain ⟨hchildren, hend⟩ := shapes_of_outlines ih huchildren hrest hrest' hbelow
    exact ⟨by rw [shape_eq, shape_eq, hkind, hchildren], hend⟩

/-! ## Lines -/

/-- A line of an outline as text. -/
def lineText (line : Nat × String) : List Char :=
  List.replicate (2 * line.1) ' ' ++ line.2.toList ++ ['\n']

theorem toList_trace (t : Tree) : t.trace.toList = (t.outline 0).flatMap lineText :=
  String.toList_ofList

/-- A line that has no line break and does not start with a blank of its own. -/
structure IsLine (line : Nat × String) : Prop where
  unbroken : '\n' ∉ line.2.toList
  flush : line.2.toList.takeWhile (· == ' ') = []

/-- A line ends at the first line break, and its indent at the first character that is no blank. -/
theorem lineText_inj {line line' : Nat × String} {rest rest' : List Char} (h : IsLine line)
    (h' : IsLine line') (heq : lineText line ++ rest = lineText line' ++ rest') :
    line = line' ∧ rest = rest' := by
  have hunbroken : ∀ {line : Nat × String}, IsLine line →
      ∀ c ∈ List.replicate (2 * line.1) ' ' ++ line.2.toList, (c != '\n') = true := by
    intro line h c hc
    rw [bne_iff_ne]
    rintro rfl
    rcases List.mem_append.mp hc with hblank | htext
    · exact absurd (List.eq_of_mem_replicate hblank) (by decide)
    · exact h.unbroken htext
  have hblanks : ∀ n, ∀ c ∈ List.replicate n ' ', (c == ' ') = true := by
    intro n c hc
    rw [List.eq_of_mem_replicate hc]
    rfl
  rw [lineText, lineText, List.append_assoc _ _ rest, List.append_assoc _ _ rest'] at heq
  obtain ⟨hfront, hrest⟩ := List.append_inj_of_stop (hunbroken h) (hunbroken h') rfl rfl heq
  obtain ⟨hindent, htext⟩ := List.append_inj_of_stop (hblanks _) (hblanks _) h.flush h'.flush hfront
  have hdepth := congrArg List.length hindent
  rw [List.length_replicate, List.length_replicate] at hdepth
  refine ⟨Prod.ext (by omega) (String.toList_inj.mp htext), ?_⟩
  exact List.append_cancel_left hrest

/-- A text is cut into lines in one way. -/
theorem flatMap_lineText_inj {lines lines' : List (Nat × String)} (h : ∀ line ∈ lines, IsLine line)
    (h' : ∀ line ∈ lines', IsLine line)
    (heq : lines.flatMap lineText = lines'.flatMap lineText) : lines = lines' := by
  induction lines generalizing lines' with
  | nil =>
    cases lines' with
    | nil => rfl
    | cons line' lines' => simp [lineText] at heq
  | cons line lines ih =>
    cases lines' with
    | nil => simp [lineText] at heq
    | cons line' lines' =>
      rw [List.forall_mem_cons] at h h'
      rw [List.flatMap_cons, List.flatMap_cons] at heq
      obtain ⟨rfl, hrest⟩ := lineText_inj h.1 h'.1 heq
      rw [ih h.2 h'.2 hrest]

end Tree

theorem Number.Single.newline_not_mem_canonical (x : Single) : '\n' ∉ x.canonical := by
  cases x with
  | nan => decide
  | infinite negative => cases negative <;> decide
  | finite negative m =>
    obtain ⟨c, rest, htext, hdigit, hrest⟩ := Single.isNumeral_canonical m
    rw [Single.canonical_signed, htext]
    intro h
    have hnumeral : '\n' ∈ c :: rest := by
      cases negative with
      | false => exact h
      | true => exact (List.mem_cons.mp h).resolve_left (by decide)
    rcases List.mem_cons.mp hnumeral with rfl | hmem
    · exact absurd hdigit (by decide)
    · exact absurd (hrest _ hmem) (by decide)

theorem newline_not_mem_toDigits (n : Nat) : '\n' ∉ Nat.toDigits 10 n := by
  intro h
  exact absurd (Number.Decimal.all_isDigit_toDigits n _ h) (by decide)

theorem Atom.newline_not_mem_describe {a : Atom} (h : ∀ text ∈ a.texts, '\n' ∉ text.toList) :
    '\n' ∉ a.describe.toList := by
  cases a with
  | term text => simpa [texts, describe] using h
  | phrase text slop =>
    cases slop with
    | none => simpa [texts, describe] using h
    | some slop => simpa [texts, describe, newline_not_mem_toDigits] using h
  | wildcard pattern => simpa [texts, describe] using h
  | fuzzy text similarity =>
    cases similarity with
    | none => simpa [texts, describe] using h
    | some s => simpa [texts, describe, Single.newline_not_mem_canonical] using h
  | range lower upper includeLower includeUpper =>
    have hbound : ∀ bound : Option String, (∀ text, bound = some text → '\n' ∉ text.toList) →
        '\n' ∉ (bound.getD "*").toList := by
      intro bound hbound
      cases bound with
      | none => decide
      | some text => exact hbound text rfl
    have hlower := hbound lower fun text ht => h text (by simp [texts, ht])
    have hupper := hbound upper fun text ht => h text (by simp [texts, ht])
    cases includeLower <;> cases includeUpper <;> simp [describe, hlower, hupper]

namespace Tree

theorem newline_not_mem_detail {t : Tree} (h : ∀ text ∈ t.ownTexts, '\n' ∉ text.toList) :
    '\n' ∉ t.detail.toList := by
  cases t with
  | atom field a =>
    rw [ownTexts, List.forall_mem_append] at h
    have hdescribe := Atom.newline_not_mem_describe h.2
    cases field with
    | none => simpa [detail] using hdescribe
    | some name =>
      have hname : '\n' ∉ name.toList := h.1 name (by simp)
      simp [detail, hname, hdescribe]
  | scope field t => simpa [detail, ownTexts] using h
  | group junction ts =>
    rcases junction with _ | _ | _ | (_ | _) <;> simp [detail, Junction.name, Operator.name]
  | boost value t => simp [detail, Single.newline_not_mem_canonical]
  | prohibited t => simp [detail]
  | required t => simp [detail]

theorem isLine_heading (depth : Nat) {t : Tree} (h : ∀ text ∈ t.ownTexts, '\n' ∉ text.toList) :
    IsLine (depth, t.heading) where
  unbroken := by
    rw [heading, String.toList_append, List.mem_append]
    rintro (hlabel | hdetail)
    · exact (label_chars t.kind _ hlabel).2 rfl
    · exact newline_not_mem_detail h hdetail
  flush := by
    rw [heading, String.toList_append]
    cases t.kind <;> simp [Kind.label]

theorem OneLine.isLine {t : Tree} (h : t.OneLine) :
    ∀ {depth : Nat}, ∀ line ∈ t.outline depth, IsLine line := by
  induction h with
  | @node t htexts _ _ ih =>
    intro depth line hline
    rw [outline_eq, List.mem_cons] at hline
    rcases hline with rfl | hbelow
    · exact isLine_heading depth htexts
    · obtain ⟨child, hchild, hline⟩ := List.mem_flatMap.mp hbelow
      exact ih child hchild line hline

/-- Trees with the same trace have the same shape: the same kind of node at every place, groups with
the same junction and the same number of children in the same order, and the same boosts. -/
theorem shape_of_trace_eq {t u : Tree} (ht : t.OneLine) (hu : u.OneLine)
    (h : t.trace = u.trace) : t.shape = u.shape := by
  have htext := congrArg String.toList h
  rw [toList_trace, toList_trace] at htext
  have houtline : t.outline 0 = u.outline 0 := flatMap_lineText_inj ht.isLine hu.isLine htext
  have hend : Outside 0 [] := by
    intro line hline
    cases hline
  have hlines : t.outline 0 ++ [] = u.outline 0 ++ [] := by rw [houtline]
  exact (ht.told hu hend hend hlines).1

/-- Different trees can have one trace, as a colon belongs to a field name or to a text; a text that
looks like the line of a node is no node. -/
theorem shape_of_trace_eq_ambiguous :
    let first (field text : String) : Tree := boost .one (atom (some field) (.term text))
    let second : Tree := prohibited (atom none (.phrase "x  TERM y" (some 2)))
    let listed (field text : String) : Tree :=
      scope "BOOLEAN OR" (group (.implicit .or) [first field text, second])
    listed "a" "b:c" ≠ listed "a:b" "c" ∧
      (listed "a" "b:c").trace = (listed "a:b" "c").trace ∧
      (listed "a" "b:c").shape = (listed "a:b" "c").shape := by
  intro first second listed
  have hfirst : ∀ field text, '\n' ∉ field.toList → '\n' ∉ text.toList →
      (first field text).OneLine := by
    intro field text hfield htext
    have hterm : (atom (some field) (.term text)).OneLine :=
      .node (by simp [ownTexts, Atom.texts, hfield, htext]) (by simp [kind]) (by simp [children])
    exact .node (by simp [first, ownTexts]) (by simp [first, kind, Single.one, Single.isFinite])
      (List.forall_mem_singleton.mpr hterm)
  have hsecond : second.OneLine := by
    have hphrase : (atom none (.phrase "x  TERM y" (some 2))).OneLine :=
      .node (by simp [ownTexts, Atom.texts]) (by simp [kind]) (by simp [children])
    exact .node (by simp [second, ownTexts]) (by simp [second, kind])
      (List.forall_mem_singleton.mpr hphrase)
  have hlisted : ∀ field text, '\n' ∉ field.toList → '\n' ∉ text.toList →
      (listed field text).OneLine := by
    intro field text hfield htext
    have hgroup : (group (.implicit .or) [first field text, second]).OneLine :=
      .node (by simp [ownTexts]) (by simp [kind])
        (List.forall_mem_cons.mpr ⟨hfirst field text hfield htext,
          List.forall_mem_singleton.mpr hsecond⟩)
    exact .node (by simp [listed, ownTexts]) (by simp [listed, kind])
      (List.forall_mem_singleton.mpr hgroup)
  have htrace : (listed "a" "b:c").trace = (listed "a:b" "c").trace := by decide +kernel
  refine ⟨by simp [listed, first], htrace, ?_⟩
  exact shape_of_trace_eq (hlisted "a" "b:c" (by decide) (by decide))
    (hlisted "a:b" "c" (by decide) (by decide)) htrace

end Tree

end SearchQuery
