import RouteBinding.Filter.Matching
import RouteBinding.Proofs.Property.Spelling

/-!
# Filters do not see the case of keys

Two filters that differ only in the ASCII case of their keys, at any nesting (`Filter.Respells`), are met by the
same property maps; and so are they where the maps spell their keys differently, although the entries of such maps
may stand in another order (`Filter.accepts_respelled`).  Each test looks up one key, and a lookup sees neither
the spelling that is asked for nor those that are stored (`Property.Map.Respells.get?_eq`).
-/

namespace RouteBinding.Filter

open Text Property

mutual

/-- Two filters differ at most in the ASCII case of their keys. -/
inductive Respells : Filter → Filter → Prop where
  | equal {k k' : String} (h : fold k = fold k') (value : String) : Respells (equal k value) (equal k' value)
  | approx {k k' : String} (h : fold k = fold k') (value : String) : Respells (approx k value) (approx k' value)
  | present {k k' : String} (h : fold k = fold k') : Respells (present k) (present k')
  | substring {k k' : String} (h : fold k = fold k') (parts : List String) :
      Respells (substring k parts) (substring k' parts)
  | atLeast {k k' : String} (h : fold k = fold k') (bound : String) : Respells (atLeast k bound) (atLeast k' bound)
  | atMost {k k' : String} (h : fold k = fold k') (bound : String) : Respells (atMost k bound) (atMost k' bound)
  | all {fs gs : List Filter} (h : RespellsItems fs gs) : Respells (all fs) (all gs)
  | any {fs gs : List Filter} (h : RespellsItems fs gs) : Respells (any fs) (any gs)
  | negate {f g : Filter} (h : Respells f g) : Respells (negate f) (negate g)

/-- Two lists of filters differ at most in the ASCII case of their keys, item by item. -/
inductive RespellsItems : List Filter → List Filter → Prop where
  | nil : RespellsItems [] []
  | cons {f g : Filter} {fs gs : List Filter} (h : Respells f g) (hs : RespellsItems fs gs) :
      RespellsItems (f :: fs) (g :: gs)

end

variable {m m' : Map}

/-- A test of the value under a key sees it only through the lookup. -/
theorem holds_congr {k k' : String} (h : m.get? k = m'.get? k') (p : Value → Bool) :
    holds m k p = holds m' k' p := by
  rw [holds, holds, h]

mutual

/-- Where lookups do not see the spelling of keys, no filter does: there is one case for each form of a filter. -/
theorem accepts_congr (hget : ∀ k k', fold k = fold k' → m.get? k = m'.get? k') :
    ∀ {f g : Filter}, Respells f g → accepts m f = accepts m' g
  | _, _, .equal h value => by rw [accepts, accepts, holds_congr (hget _ _ h)]
  | _, _, .approx h value => by rw [accepts, accepts, holds_congr (hget _ _ h)]
  | _, _, .present h => by rw [accepts, accepts, Map.contains, Map.contains, hget _ _ h]
  | _, _, .substring h parts => by rw [accepts, accepts, holds_congr (hget _ _ h)]
  | _, _, .atLeast h bound => by rw [accepts, accepts, holds_congr (hget _ _ h)]
  | _, _, .atMost h bound => by rw [accepts, accepts, holds_congr (hget _ _ h)]
  | _, _, .all h => by rw [accepts, accepts, (acceptsItems_congr hget h).1]
  | _, _, .any h => by rw [accepts, accepts, (acceptsItems_congr hget h).2]
  | _, _, .negate h => by rw [accepts, accepts, accepts_congr hget h]

theorem acceptsItems_congr (hget : ∀ k k', fold k = fold k' → m.get? k = m'.get? k') :
    ∀ {fs gs : List Filter}, RespellsItems fs gs →
      acceptsAll m fs = acceptsAll m' gs ∧ acceptsAny m fs = acceptsAny m' gs
  | _, _, .nil => ⟨rfl, rfl⟩
  | _, _, .cons h hs => by
    obtain ⟨hall, hany⟩ := acceptsItems_congr hget hs
    rw [acceptsAll, acceptsAll, acceptsAny, acceptsAny, accepts_congr hget h, hall, hany]
    exact ⟨rfl, rfl⟩

end

/-- Filters that differ only in the case of their keys agree on maps that hold the same values under the same keys,
where the case of keys does not count either. -/
theorem accepts_respelled {f g : Filter} (hf : f.Respells g) (hm : ∀ e, e ∈ m.folded ↔ e ∈ m'.folded) :
    accepts m f = accepts m' g :=
  accepts_congr (fun _ _ h => (Map.respells_iff.2 hm).get?_eq h) hf

/-- The spellings put the entries of the two maps in opposite orders. -/
theorem ranked_accepts_respelled :
    (Filter.all [.atLeast "rank" "+5", .negate (.any [.equal "NAME" "x", .present "é"])]).Respells
        (.all [.atLeast "RANK" "+5", .negate (.any [.equal "name" "x", .present "é"])]) ∧
      (Map.ofList [("Name", .text "y"), ("rank", .number 7)]).entries.map (·.1) = ["Name", "rank"] ∧
      (Map.ofList [("nAME", .text "y"), ("Rank", .number 7)]).entries.map (·.1) = ["Rank", "nAME"] ∧
      (∀ e, e ∈ (Map.ofList [("Name", .text "y"), ("rank", .number 7)]).folded ↔
        e ∈ (Map.ofList [("nAME", .text "y"), ("Rank", .number 7)]).folded) ∧
      accepts (.ofList [("Name", .text "y"), ("rank", .number 7)])
          (.all [.atLeast "rank" "+5", .negate (.any [.equal "NAME" "x", .present "é"])]) = true ∧
      accepts (.ofList [("nAME", .text "y"), ("Rank", .number 7)])
          (.all [.atLeast "RANK" "+5", .negate (.any [.equal "name" "x", .present "é"])]) = true := by
  have hf : (Filter.all [.atLeast "rank" "+5", .negate (.any [.equal "NAME" "x", .present "é"])]).Respells
      (.all [.atLeast "RANK" "+5", .negate (.any [.equal "name" "x", .present "é"])]) := by
    refine .all (.cons (.atLeast (by decide) _) (.cons (.negate (.any ?_)) .nil))
    exact .cons (.equal (by decide) _) (.cons (.present rfl) .nil)
  have hm : (Map.ofList [("Name", .text "y"), ("rank", .number 7)]).folded.Perm
      (Map.ofList [("nAME", .text "y"), ("Rank", .number 7)]).folded := by decide +kernel
  have haccepts : accepts (.ofList [("Name", .text "y"), ("rank", .number 7)])
      (.all [.atLeast "rank" "+5", .negate (.any [.equal "NAME" "x", .present "é"])]) = true := by decide +kernel
  exact ⟨hf, by decide +kernel, by decide +kernel, fun _ => hm.mem_iff, haccepts,
    (accepts_respelled hf fun _ => hm.mem_iff).symm.trans haccepts⟩

end RouteBinding.Filter
