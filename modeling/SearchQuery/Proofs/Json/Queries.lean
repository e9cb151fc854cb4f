import SearchQuery.Proofs.Json.Records
import SearchQuery.Query.Json

/-!
Stored queries. A query is stored with all its strings, flags and words, and its numbers are stored
unless they are not finite, which JSON has no spelling for. Main statement: a stored query is read
back as it was if its boolean queries are not nested too deep, and never if it holds a number that
is not finite.
-/

namespace SearchQuery

open Number (Single)

namespace Json

/-- A number is read from JSON as the number that was written. -/
def ReadsBack (x : Single) : Prop := (ofSingle x).single? = some x

instance (x : Single) : Decidable (ReadsBack x) := inferInstanceAs (Decidable (_ = _))

theorem single?_ofSingle_of_not_isFinite {x : Single} (h : x.isFinite = false) :
    (ofSingle x).single? = none := by
  cases x with
  | finite negative m => cases h
  | nan => rfl
  | infinite negative => rfl

end Json

/-- The similarity of a leaf, if it has one. -/
def Leaf.numbers : Leaf → List Single
  | .fuzzy _ _ similarity _ => [similarity]
  | _ => []

namespace Query

mutual

/-- The boosts and similarities of a query and of all queries within it. -/
def numbers : Query → List Single
  | .leaf l boost => boost :: l.numbers
  | .boolean clauses boost => boost :: clauseNumbers clauses

def clauseNumbers : List (Clause Query) → List Single
  | [] => []
  | ⟨_, query⟩ :: rest => query.numbers ++ clauseNumbers rest

end

mutual

/-- How deep boolean queries nest in a query. -/
def booleanDepth : Query → Nat
  | .leaf .. => 0
  | .boolean clauses _ => clausesDepth clauses + 1

def clausesDepth : List (Clause Query) → Nat
  | [] => 0
  | ⟨_, query⟩ :: rest => max query.booleanDepth (clausesDepth rest)

end

end Query

/-! ## Leaves -/

namespace Leaf

/-- What a leaf is stored as, under the name of its kind. -/
def stored (l : Leaf) (boost : Single) : Json :=
  .record (l.jsonMembers ++ [("boost", .ofSingle boost)])

/-- How many arrays and objects are open where the innermost member of a leaf stands. -/
def levels : Leaf → Nat
  | .phrase .. => 2
  | _ => 1

/-- The leaf with its similarity as it is read from JSON. -/
def reread? : Leaf → Option Leaf
  | .fuzzy field text similarity sharedLength =>
    (Json.ofSingle similarity).single?.bind fun s => some (.fuzzy field text s sharedLength)
  | l => some l

theorem allFields?_stored (l : Leaf) (boost : Single) :
    (l.stored boost).allFields? (l.jsonMembers.map Prod.fst ++ ["boost"]) =
      some (l.jsonMembers.map (some ·.2) ++ [some (.ofSingle boost)]) := by
  have hdistinct : ((l.jsonMembers ++ [("boost", Json.ofSingle boost)]).map Prod.fst).Nodup := by
    cases l <;> simp [jsonMembers]
  have hfields := Json.allFields?_record hdistinct
  rwa [List.map_append, List.map_append] at hfields

theorem wellFormed_jsonMembers (l : Leaf) : ∀ member ∈ l.jsonMembers, member.2.WellFormed := by
  cases l with
  | phrase field terms slop =>
    have hterms : (Json.array (terms.map .ofString)).WellFormed := by
      refine .array ?_
      intro item hitem
      obtain ⟨term, -, rfl⟩ := List.mem_map.mp hitem
      exact Json.wellFormed_ofString term
    simp [jsonMembers, Json.wellFormed_ofString, Json.wellFormed_ofNat, hterms]
  | range field lower upper includeLower includeUpper =>
    have hbound (bound : Option String) : ((bound.map Json.ofString).getD .null).WellFormed := by
      cases bound with
      | none => exact .null
      | some text => exact Json.wellFormed_ofString text
    simp [jsonMembers, Json.wellFormed_ofString, hbound, Json.WellFormed.bool]
  | _ =>
    simp [jsonMembers, Json.wellFormed_ofString, Json.wellFormed_ofNat, Json.wellFormed_ofSingle]

/-- A stored leaf is read where its members may nest, with its numbers as JSON has them. -/
theorem ofJson?_stored (l : Leaf) (boost : Single) (depth : Nat) :
    ofJson? l.jsonName depth (l.stored boost) =
      if l.levels ≤ depth then
        l.reread?.bind fun l' => (Json.ofSingle boost).single?.bind fun b => some (l', b)
      else none := by
  have hfields := allFields?_stored l boost
  cases l with
  | phrase field terms slop =>
    simp only [jsonMembers, List.map_cons, List.map_nil, List.cons_append, List.nil_append]
      at hfields
    match depth with
    | 0 => rfl
    | 1 => simp [ofJson?, jsonName, Json.enter?, hfields, levels]
    | depth + 2 => simp [ofJson?, jsonName, Json.enter?, hfields, levels, reread?]
  | _ =>
    simp only [jsonMembers, List.map_cons, List.map_nil, List.cons_append, List.nil_append]
      at hfields
    cases depth with
    | zero => rfl
    | succ depth =>
      simp [ofJson?, jsonName, Json.enter?, hfields, levels, reread?, Option.bind_assoc]

theorem reread?_of_readsBack {l : Leaf} (h : ∀ x ∈ l.numbers, Json.ReadsBack x) :
    l.reread? = some l := by
  cases l with
  | fuzzy field text similarity sharedLength =>
    have hsimilarity : (Json.ofSingle similarity).single? = some similarity :=
      h similarity List.mem_cons_self
    rw [reread?, hsimilarity, Option.bind_some]
  | _ => rfl

theorem reread?_of_not_isFinite {l : Leaf} {x : Single} (hx : x ∈ l.numbers)
    (h : x.isFinite = false) : l.reread? = none := by
  cases l with
  | fuzzy field text similarity sharedLength =>
    obtain rfl := List.mem_singleton.mp hx
    rw [reread?, Json.single?_ofSingle_of_not_isFinite h, Option.bind_none]
  | _ => cases hx

end Leaf

/-! ## Clauses -/

theorem Occur.ofJsonName?_jsonName (occur : Occur) : ofJsonName? occur.jsonName = some occur := by
  cases occur <;> decide

namespace Query

theorem clauseOfJson?_record (query? : Json → Option Query) (depth : Nat) (occur : Occur)
    (query : Json) :
    clauseOfJson? query? depth (.record [("query", query), ("occur", .ofString occur.jsonName)]) =
      (query? query).bind fun q => some ⟨occur, q⟩ := by
  have hfields : (Json.record [("query", query), ("occur", .ofString occur.jsonName)]).allFields?
      ["query", "occur"] = some [some query, some (.ofString occur.jsonName)] :=
    Json.allFields?_record (by simp)
  simp [clauseOfJson?, hfields, Occur.ofJsonName?_jsonName]

/-- Reads the clauses of a boolean query, which nest four arrays and objects further in. -/
def clausesOfJson? (depth : Nat) (items : List Json) : Option (List (Clause Query)) :=
  if 4 ≤ depth then items.mapM (clauseOfJson? (ofJson? (depth - 4)) (depth - 4))
  else if items.isEmpty then some [] else none

/-- The depth that is left decides how clauses are read, and nothing else. -/
theorem ofJson?_eq (depth : Nat) : ofJson? depth = ofJsonWith? (clausesOfJson? depth) depth := by
  funext json
  match depth with
  | depth + 4 => rw [ofJson?]; congr
  | 3 => rfl
  | 2 => rfl
  | 1 => rfl
  | 0 => rfl

theorem ofJson?_leaf (l : Leaf) (boost : Single) (depth : Nat) :
    ofJson? depth (leaf l boost).toJson =
      (Json.enter? depth).bind fun inner =>
        (Leaf.ofJson? l.jsonName inner (l.stored boost)).bind fun (l, b) => some (leaf l b) := by
  have hkind : l.jsonName ≠ "Boolean" := by cases l <;> simp [Leaf.jsonName]
  have hjson : (leaf l boost).toJson = .object [(some l.jsonName, l.stored boost)] := by
    rw [toJson]
    rfl
  rw [ofJson?_eq, hjson]
  simp [ofJsonWith?, hkind]

theorem ofJson?_boolean (clauses : List (Clause Query)) (boost : Single) (depth : Nat) :
    ofJson? depth (boolean clauses boost).toJson =
      if 3 ≤ depth then
        (clausesOfJson? depth (clausesToJson clauses)).bind fun cs =>
          (Json.ofSingle boost).single?.bind fun b => some (boolean cs b)
      else none := by
  have hfields : (Json.record [("clauses", .array (clausesToJson clauses)),
      ("boost", .ofSingle boost)]).allFields? ["clauses", "boost"] =
        some [some (.array (clausesToJson clauses)), some (.ofSingle boost)] :=
    Json.allFields?_record (by simp)
  have hjson : (boolean clauses boost).toJson = .object [(some "Boolean",
      .record [("clauses", .array (clausesToJson clauses)), ("boost", .ofSingle boost)])] := by
    rw [toJson]
    rfl
  rw [ofJson?_eq, hjson]
  match depth with
  | 0 => rfl
  | 1 => rfl
  | 2 => simp [ofJsonWith?, Json.enter?, hfields]
  | depth + 3 => simp [ofJsonWith?, Json.enter?, hfields]

/-! ## Reading stored queries -/

mutual

/-- A stored query is read back where its boolean queries may nest as deep as they do. -/
theorem ofJson?_toJson : (q : Query) → (∀ x ∈ q.numbers, Json.ReadsBack x) → {depth : Nat} →
    4 * q.booleanDepth + 3 ≤ depth → ofJson? depth q.toJson = some q
  | .leaf l boost, h, depth, hdepth => by
    obtain ⟨depth, rfl⟩ : ∃ inner, depth = inner + 1 := ⟨depth - 1, by omega⟩
    rw [numbers, List.forall_mem_cons] at h
    have hboost : (Json.ofSingle boost).single? = some boost := h.1
    have hlevels : l.levels ≤ depth := by
      have hle : l.levels ≤ 2 := by cases l <;> simp [Leaf.levels]
      omega
    rw [ofJson?_leaf, Json.enter?, Option.bind_some, Leaf.ofJson?_stored, if_pos hlevels,
      Leaf.reread?_of_readsBack h.2, hboost]
    rfl
  | .boolean clauses boost, h, depth, hdepth => by
    rw [numbers, List.forall_mem_cons] at h
    have hboost : (Json.ofSingle boost).single? = some boost := h.1
    rw [booleanDepth] at hdepth
    have hclauses : clausesOfJson? depth (clausesToJson clauses) = some clauses :=
      clausesOfJson?_clausesToJson clauses h.2 (by omega)
    rw [ofJson?_boolean, if_pos (by omega), hclauses, hboost]
    rfl

theorem clausesOfJson?_clausesToJson : (clauses : List (Clause Query)) →
    (∀ x ∈ clauseNumbers clauses, Json.ReadsBack x) → {depth : Nat} →
    4 * clausesDepth clauses + 7 ≤ depth →
    clausesOfJson? depth (clausesToJson clauses) = some clauses
  | [], _, depth, hdepth => by
    rw [clausesOfJson?, if_pos (by omega), clausesToJson]
    rfl
  | ⟨occur, query⟩ :: rest, h, depth, hdepth => by
    rw [clauseNumbers, List.forall_mem_append] at h
    rw [clausesDepth] at hdepth
    have hquery : ofJson? (depth - 4) query.toJson = some query :=
      ofJson?_toJson query h.1 (by omega)
    have hrest : clausesOfJson? depth (clausesToJson rest) = some rest :=
      clausesOfJson?_clausesToJson rest h.2 (by omega)
    rw [clausesOfJson?, if_pos (by omega)] at hrest ⊢
    rw [clausesToJson, List.mapM_cons, clauseOfJson?_record, hquery, hrest]
    rfl

end

mutual

/-- A number that is not finite is stored as null, which no number is read from. -/
theorem ofJson?_toJson_of_not_isFinite {x : Single} (hx : x.isFinite = false) (depth : Nat) :
    (q : Query) → x ∈ q.numbers → ofJson? depth q.toJson = none
  | .leaf l boost, h => by
    rw [numbers, List.mem_cons] at h
    rw [ofJson?_leaf]
    cases depth with
    | zero => rfl
    | succ depth =>
      rw [Json.enter?, Option.bind_some, Leaf.ofJson?_stored]
      rcases h with rfl | h
      · simp [Json.single?_ofSingle_of_not_isFinite hx]
      · simp [Leaf.reread?_of_not_isFinite h hx]
  | .boolean clauses boost, h => by
    rw [numbers, List.mem_cons] at h
    rw [ofJson?_boolean]
    rcases h with rfl | h
    · simp [Json.single?_ofSingle_of_not_isFinite hx]
    · simp [clausesOfJson?_of_not_isFinite hx depth clauses h]

theorem clausesOfJson?_of_not_isFinite {x : Single} (hx : x.isFinite = false) (depth : Nat) :
    (clauses : List (Clause Query)) → x ∈ clauseNumbers clauses →
    clausesOfJson? depth (clausesToJson clauses) = none
  | ⟨occur, query⟩ :: rest, h => by
    rw [clauseNumbers, List.mem_append] at h
    rw [clausesToJson]
    by_cases hdepth : 4 ≤ depth
    · rw [clausesOfJson?, if_pos hdepth, List.mapM_cons, clauseOfJson?_record]
      rcases h with h | h
      · rw [ofJson?_toJson_of_not_isFinite hx (depth - 4) query h]
        rfl
      · have hrest := clausesOfJson?_of_not_isFinite hx depth rest h
        rw [clausesOfJson?, if_pos hdepth] at hrest
        simp [hrest]
    · rw [clausesOfJson?, if_neg hdepth]
      rfl

end

mutual

theorem wellFormed_toJson : (q : Query) → q.toJson.WellFormed
  | .leaf l boost => by
    rw [toJson]
    refine Json.wellFormed_record ?_
    rw [List.forall_mem_singleton]
    refine Json.wellFormed_record ?_
    rw [List.forall_mem_append, List.forall_mem_singleton]
    exact ⟨l.wellFormed_jsonMembers, Json.wellFormed_ofSingle boost⟩
  | .boolean clauses boost => by
    rw [toJson]
    refine Json.wellFormed_record ?_
    rw [List.forall_mem_singleton]
    refine Json.wellFormed_record ?_
    rw [List.forall_mem_cons, List.forall_mem_singleton]
    exact ⟨.array (wellFormed_clausesToJson clauses), Json.wellFormed_ofSingle boost⟩

theorem wellFormed_clausesToJson : (clauses : List (Clause Query)) →
    ∀ item ∈ clausesToJson clauses, item.WellFormed
  | [] => by
    rw [clausesToJson]
    intro item h
    cases h
  | ⟨occur, query⟩ :: rest => by
    rw [clausesToJson, List.forall_mem_cons]
    refine ⟨Json.wellFormed_record ?_, wellFormed_clausesToJson rest⟩
    rw [List.forall_mem_cons, List.forall_mem_singleton]
    exact ⟨wellFormed_toJson query, Json.wellFormed_ofString _⟩

end

/-- A stored query is read from the value that it was written as. -/
theorem decode?_encode_eq (q : Query) : decode? q.encode = ofJson? Json.maxDepth q.toJson := by
  rw [decode?, encode, Json.read?_render q.wellFormed_toJson, Option.bind_some]

end Query

/-! ## Equality -/

theorem Number.Single.numEq_self {x : Single} (h : x.isFinite = true) : x.numEq x = true := by
  cases x with
  | finite negative m => simp [numEq]
  | nan => cases h
  | infinite negative => cases h

theorem Leaf.same_self {l : Leaf} (h : ∀ x ∈ l.numbers, x.isFinite = true) : l.same l = true := by
  cases l with
  | fuzzy field text similarity sharedLength =>
    simp [same, Single.numEq_self (h similarity List.mem_cons_self)]
  | _ => exact beq_self_eq_true _

namespace Query

mutual

/-- A query without numbers that are not finite is equal to itself. -/
theorem same_self : (q : Query) → (∀ x ∈ q.numbers, x.isFinite = true) → q.same q = true
  | .leaf l boost, h => by
    rw [numbers, List.forall_mem_cons] at h
    rw [same, Leaf.same_self h.2, Single.numEq_self h.1, Bool.and_self]
  | .boolean clauses boost, h => by
    rw [numbers, List.forall_mem_cons] at h
    rw [same, sameClauses_self clauses h.2, Single.numEq_self h.1, Bool.and_self]

theorem sameClauses_self : (clauses : List (Clause Query)) →
    (∀ x ∈ clauseNumbers clauses, x.isFinite = true) → sameClauses clauses clauses = true
  | [], _ => by rw [sameClauses]
  | ⟨occur, query⟩ :: rest, h => by
    rw [clauseNumbers, List.forall_mem_append] at h
    rw [sameClauses, beq_self_eq_true, same_self query h.1, sameClauses_self rest h.2]
    rfl

end

/-- A stored query with finite numbers is read back as it was, equal to itself and so with the same
rendering, if its boolean queries nest at most 31 deep and JSON gives each of its numbers back. A
stored query with a number that is not finite is never read. -/
theorem decode?_encode (q : Query) :
    ((∀ x ∈ q.numbers, x.isFinite = true) → q.booleanDepth ≤ 31 →
        (∀ x ∈ q.numbers, x.isFinite = true → Json.ReadsBack x) →
      decode? q.encode = some q ∧ q.same q = true) ∧
    ((∃ x ∈ q.numbers, x.isFinite = false) → decode? q.encode = none) := by
  rw [decode?_encode_eq]
  constructor
  · intro hfinite hdepth hreads
    have hback : ∀ x ∈ q.numbers, Json.ReadsBack x := fun x hx => hreads x hx (hfinite x hx)
    have hroom : 4 * q.booleanDepth + 3 ≤ Json.maxDepth := by
      rw [Json.maxDepth]
      omega
    exact ⟨ofJson?_toJson q hback hroom, same_self q hfinite⟩
  · rintro ⟨x, hx, hinfinite⟩
    exact ofJson?_toJson_of_not_isFinite hinfinite Json.maxDepth q hx

/-- Every kind of query, with a quote, a backslash, a control and a character beyond 16 bits in its
strings. The second query differs in one boost. -/
theorem decode?_encode_mixed :
    let deep (boost : Single) : Query := .boolean
      [⟨.must, .leaf (.phrase "a \"b\\" ["\n", "\x01\x7f", "𝄞"] 4294967295) Single.half⟩,
        ⟨.mustNot, .boolean
          [⟨.should, .leaf (.fuzzy "" "é" (.ofDecimal ⟨1, 1⟩) 3) boost⟩,
            ⟨.should, .leaf (.range "f" none (some "*") true false) (.ofDecimal ⟨3, 45⟩)⟩]
          Single.one⟩,
        ⟨.should, .leaf (.wildcard "f" "*") (.ofDecimal ⟨123456789, 2⟩)⟩,
        ⟨.should, .leaf .matchAll Single.one⟩, ⟨.must, .leaf (.term "f" "null") Single.one⟩]
      Single.zero
    (decode? (deep Single.one).encode = some (deep Single.one) ∧
        (deep Single.one).same (deep Single.one) = true) ∧
      decode? (deep (.infinite true)).encode = none := by
  intro deep
  have hfinite : ∀ x ∈ (deep Single.one).numbers, x.isFinite = true := by decide +kernel
  have hreads : ∀ x ∈ (deep Single.one).numbers, x.isFinite = true → Json.ReadsBack x := by
    decide +kernel
  have hinfinite : ∃ x ∈ (deep (.infinite true)).numbers, x.isFinite = false := by decide +kernel
  exact ⟨(decode?_encode (deep Single.one)).1 hfinite (by decide +kernel) hreads,
    (decode?_encode (deep (.infinite true))).2 hinfinite⟩

end Query

end SearchQuery
