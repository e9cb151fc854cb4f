import SearchQuery.Config.Json
import SearchQuery.Proofs.Json.Queries
import SearchQuery.Proofs.Validity

/-!
Stored configurations. A setting is read from the member with its name, wherever the member stands,
and has its default value if there is none. Main statement: every parser that can be made has
settings that pass their check, and they are read back from any record that holds, in any order, at
least the settings that differ from their defaults.
-/

namespace SearchQuery

open Number (Single)

theorem Operator.ofJson?_ofString (depth : Nat) (operator : Operator) :
    ofJson? depth (.ofString operator.name) = some operator := by
  cases operator <;> rfl

namespace Config

/-- A setting of a configuration. -/
inductive Setting
  | defaultOperator
  | maxClauseCount
  | maxDepth
  | fuzzyMinSimilarity
  | fuzzySharedLength
  | phraseSlop
  | lowercaseExpandedTerms
  | debugTrace
deriving DecidableEq

namespace Setting

/-- The settings in the order in which they are stored. -/
def all : List Setting :=
  [defaultOperator, maxClauseCount, maxDepth, fuzzyMinSimilarity, fuzzySharedLength, phraseSlop,
    lowercaseExpandedTerms, debugTrace]

/-- The name that a setting is stored under. -/
def name : Setting → String
  | defaultOperator => "default_operator"
  | maxClauseCount => "max_clause_count"
  | maxDepth => "max_depth"
  | fuzzyMinSimilarity => "fuzzy_min_similarity"
  | fuzzySharedLength => "fuzzy_prefix_length"
  | phraseSlop => "phrase_slop"
  | lowercaseExpandedTerms => "lowercase_expanded_terms"
  | debugTrace => "debug_trace"

/-- What a setting of a configuration is stored as. -/
def stored (c : Config) : Setting → Json
  | defaultOperator => .ofString c.defaultOperator.name
  | maxClauseCount => .ofNat c.maxClauseCount.toNat
  | maxDepth => .ofNat c.maxDepth.toNat
  | fuzzyMinSimilarity => .ofSingle c.fuzzyMinSimilarity
  | fuzzySharedLength => .ofNat c.fuzzySharedLength.toNat
  | phraseSlop => .ofNat c.phraseSlop.toNat
  | lowercaseExpandedTerms => .bool c.lowercaseExpandedTerms
  | debugTrace => .bool c.debugTrace

/-- A setting has the same value in two configurations. -/
def Agree (c c' : Config) : Setting → Prop
  | defaultOperator => c.defaultOperator = c'.defaultOperator
  | maxClauseCount => c.maxClauseCount = c'.maxClauseCount
  | maxDepth => c.maxDepth = c'.maxDepth
  | fuzzyMinSimilarity => c.fuzzyMinSimilarity = c'.fuzzyMinSimilarity
  | fuzzySharedLength => c.fuzzySharedLength = c'.fuzzySharedLength
  | phraseSlop => c.phraseSlop = c'.phraseSlop
  | lowercaseExpandedTerms => c.lowercaseExpandedTerms = c'.lowercaseExpandedTerms
  | debugTrace => c.debugTrace = c'.debugTrace

theorem mem_all (s : Setting) : s ∈ all := by
  cases s <;> decide

theorem name_injective : Function.Injective name := by
  intro s s' h
  cases s <;> cases s' <;> simp [name] at h ⊢

theorem wellFormed_stored (c : Config) (s : Setting) : (s.stored c).WellFormed := by
  cases s with
  | defaultOperator => exact Json.wellFormed_ofString _
  | fuzzyMinSimilarity => exact Json.wellFormed_ofSingle _
  | lowercaseExpandedTerms => exact .bool _
  | debugTrace => exact .bool _
  | _ => exact Json.wellFormed_ofNat _

end Setting

/-- The record of some settings of a configuration. -/
def record (c : Config) (settings : List Setting) : Json :=
  .record (settings.map fun s => (s.name, s.stored c))

theorem toJson_eq_record (c : Config) : c.toJson = c.record Setting.all := rfl

theorem wellFormed_record (c : Config) (settings : List Setting) :
    (c.record settings).WellFormed := by
  refine Json.wellFormed_record fun member hmember => ?_
  obtain ⟨s, -, rfl⟩ := List.mem_map.mp hmember
  exact s.wellFormed_stored c

/-! ## Reading settings -/

/-- A setting is found wherever it stands in a record. -/
theorem lookup_setting (c : Config) (settings : List Setting) (s : Setting) :
    ((settings.map fun s => (s.name, s.stored c)).map fun (name, value) =>
      ((some name : Json.Content), value)).lookup (some s.name) =
      if s ∈ settings then some (s.stored c) else none := by
  induction settings with
  | nil => rfl
  | cons first settings ih =>
    rw [List.map_cons, List.map_cons, List.lookup_cons]
    by_cases hfirst : s = first
    · simp [hfirst]
    · have hname : (some s.name == some first.name) = false := by
        simpa using fun heq => hfirst (Setting.name_injective heq)
      rw [hname, ih]
      simp [hfirst]

theorem fields?_record (c : Config) {settings : List Setting} (distinct : settings.Nodup) :
    (c.record settings).fields? (Setting.all.map Setting.name) =
      some (Setting.all.map fun s => if s ∈ settings then some (s.stored c) else none) := by
  have hdistinct : ((settings.map fun s => (s.name, s.stored c)).map Prod.fst).Nodup := by
    rw [List.map_map]
    exact distinct.map Setting.name_injective
  rw [record, Json.fields?_eq_lookup hdistinct, List.map_map]
  exact congrArg some (List.map_congr_left fun s _ => lookup_setting c settings s)

/-- A setting that is read back, or that has its default value where it is not stored. -/
theorem setting?_eq_some {α : Type} {read : Json → Option α} {default value : α} {json : Json}
    {isStored : Prop} [Decidable isStored] (hread : read json = some value)
    (hdefault : ¬ isStored → value = default) :
    setting? read default (if isStored then some json else none) = some value := by
  by_cases h : isStored
  · rw [if_pos h]
    exact hread
  · rw [if_neg h, hdefault h]
    rfl

/-- A configuration is read from any of its settings that leave out defaults only. -/
theorem ofJson?_record {c : Config} (hreads : Json.ReadsBack c.fuzzyMinSimilarity)
    {settings : List Setting} (distinct : settings.Nodup)
    (hdefault : ∀ s, s ∉ settings → s.Agree c {}) : ofJson? (c.record settings) = some c := by
  have hfields := fields?_record c distinct
  have hsimilarity : (Json.ofSingle c.fuzzyMinSimilarity).single? = some c.fuzzyMinSimilarity :=
    hreads
  simp only [Setting.all, List.map_cons, List.map_nil, Setting.name, Setting.stored] at hfields
  simp only [ofJson?, Json.enter?, Json.maxDepth, hfields, Option.bind_eq_bind, Option.bind_some]
  rw [setting?_eq_some (Operator.ofJson?_ofString _ _) (hdefault .defaultOperator),
    setting?_eq_some (Json.word64?_ofNat _) (hdefault .maxClauseCount),
    setting?_eq_some (Json.word64?_ofNat _) (hdefault .maxDepth),
    setting?_eq_some hsimilarity (hdefault .fuzzyMinSimilarity),
    setting?_eq_some (Json.word32?_ofNat _) (hdefault .fuzzySharedLength),
    setting?_eq_some (Json.word32?_ofNat _) (hdefault .phraseSlop),
    setting?_eq_some (Json.bool?_bool _) (hdefault .lowercaseExpandedTerms),
    setting?_eq_some (Json.bool?_bool _) (hdefault .debugTrace)]
  rfl

/-- A stored configuration that passes its check is loaded from any of its settings that leave out
defaults only. -/
theorem load_record {c : Config} (valid : c.validate = .ok ())
    (hreads : Json.ReadsBack c.fuzzyMinSimilarity) {settings : List Setting}
    (distinct : settings.Nodup) (hdefault : ∀ s, s ∉ settings → s.Agree c {}) :
    load (c.record settings).render = .ok c := by
  have hdecode : decode? (c.record settings).render = some c := by
    rw [decode?, Json.read?_render (c.wellFormed_record settings), Option.bind_some]
    exact ofJson?_record hreads distinct hdefault
  simp only [load, hdecode, valid]

/-! ## Settings that pass their check -/

theorem validate_eq_ok_iff {c : Config} :
    c.validate = .ok () ↔ c.maxClauseCount ≠ 0 ∧ c.maxDepth ≠ 0 ∧
      c.fuzzyMinSimilarity.inUnitInterval = true := by
  unfold validate
  by_cases hcount : c.maxClauseCount = 0
  · simp [hcount]
  by_cases hdepth : c.maxDepth = 0
  · simp [hcount, hdepth]
  by_cases hsimilarity : c.fuzzyMinSimilarity.inUnitInterval = true
  · simp [hcount, hdepth, hsimilarity]
  · simp [hcount, hdepth, hsimilarity]

end Config

theorem Number.Single.isFinite_of_inUnitInterval {x : Single} (h : x.inUnitInterval = true) :
    x.isFinite = true := by
  cases x with
  | finite negative m => rfl
  | nan => cases h
  | infinite negative => cases h

namespace Parser

/-- Every way to make a parser keeps its settings within their check: constructors check them, and
the one setting with a bound that can be replaced alone is raised to it. -/
theorem Made.valid {p : Parser} (h : p.Made) : p.config.validate = .ok () := by
  induction h with
  | default => exact (by decide : ({} : Config).validate = .ok ())
  | @configured analyzer config p accepted =>
    unfold withConfig at accepted
    split at accepted
    · cases accepted
    · rename_i hvalid
      cases accepted
      exact hvalid
  | withDefaultOperator _ _ ih => exact ih
  | withMaxClauseCount count _ ih =>
    obtain ⟨-, hdepth, hsimilarity⟩ := Config.validate_eq_ok_iff.mp ih
    have hcount : (if count = 0 then 1 else count) ≠ 0 := by
      split
      · decide
      · assumption
    exact Config.validate_eq_ok_iff.mpr ⟨hcount, hdepth, hsimilarity⟩
  | withDebugTrace _ _ ih => exact ih

/-- The settings of every parser pass their check. They are loaded from what they are stored as, and
so they are with their members in any order and any defaults left out, if JSON gives the similarity
back. -/
theorem load_config {p : Parser} (made : p.Made) :
    p.config.validate = .ok () ∧
    ((p.config.fuzzyMinSimilarity.isFinite = true →
        Json.ReadsBack p.config.fuzzyMinSimilarity) →
      Config.load p.config.encode = .ok p.config ∧
      ∀ settings : List Config.Setting, settings.Nodup →
        (∀ s, s ∉ settings → s.Agree p.config {}) →
        Config.load (p.config.record settings).render = .ok p.config) := by
  have hvalid := made.valid
  refine ⟨hvalid, ?_⟩
  intro hreads
  have hfinite := Single.isFinite_of_inUnitInterval (Config.validate_eq_ok_iff.mp hvalid).2.2
  have hback := hreads hfinite
  constructor
  · rw [Config.encode, Config.toJson_eq_record]
    apply Config.load_record hvalid hback (by decide)
    intro s hs
    exact absurd s.mem_all hs
  · intro settings distinct hdefault
    exact Config.load_record hvalid hback distinct hdefault

/-- Settings with a similarity that no binary fraction is equal to. -/
def looser : Config := { fuzzyMinSimilarity := .ofDecimal ⟨1, 1⟩ }

/-- A clause count of zero is raised to one. Of the five settings that are stored out of order, two
have their default values. -/
theorem load_config_unordered :
    let p : Parser := (withMaxClauseCount ⟨.keyword, looser⟩ 0).withDebugTrace true
    p.Made ∧ Json.ReadsBack p.config.fuzzyMinSimilarity ∧ p.config.validate = .ok () ∧
      Config.load p.config.encode = .ok p.config ∧
      Config.load (p.config.record
        [.debugTrace, .maxDepth, .fuzzyMinSimilarity, .phraseSlop, .maxClauseCount]).render =
          .ok p.config := by
  intro p
  have haccepted : withConfig .keyword looser = .ok ⟨.keyword, looser⟩ := by
    have hvalid : looser.validate = .ok () := by decide +kernel
    rw [withConfig, hvalid]
  have hmade : p.Made := .withDebugTrace true (.withMaxClauseCount 0 (.configured haccepted))
  have hreads : Json.ReadsBack p.config.fuzzyMinSimilarity := by decide +kernel
  obtain ⟨hvalid, hload⟩ := load_config hmade
  obtain ⟨hencode, hrecord⟩ := hload fun _ => hreads
  refine ⟨hmade, hreads, hvalid, hencode, hrecord _ (by decide) ?_⟩
  intro s hs
  cases s with
  | defaultOperator => rfl
  | fuzzySharedLength => rfl
  | lowercaseExpandedTerms => rfl
  | _ => exact absurd (by decide) hs

end Parser

end SearchQuery
