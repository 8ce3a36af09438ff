import RouteBinding.Provider.Group
import RouteBinding.Sorted

/-!
# Requirements

A requirement is a filter that some other interceptor attached to the same group, the group itself, or the
host must meet.  Detaching an interceptor can leave another one without what it requires, so interceptors are
detached in rounds until every one that is left has its requirements met.
-/

namespace RouteBinding

open Property

/-- Whether a filter is met for a provider in a group with these interceptors. -/
def requirementMet (host : Map) (g : Group) (interceptors : List Content) (requester : ServiceId)
    (f : Filter) : Bool :=
  (interceptors.any fun i => i.id != requester && f.accepts i.provider.properties) ||
    f.accepts g.selection || f.accepts host

/-- Whether every requirement of a provider is met in a group with these interceptors. -/
def requirementsMet (host : Map) (g : Group) (interceptors : List Content) (p : Provider) : Bool :=
  p.requires.all (requirementMet host g interceptors p.id)

/-- The interceptors with a requirement that is not met among them. -/
def failing (host : Map) (g : Group) (interceptors : List Content) : List Content :=
  interceptors.filter fun i => !requirementsMet host g interceptors i.provider

/-- Identities in increasing order, each once. -/
def sortedIds (ids : List ServiceId) : List ServiceId := (Sorted.ofList (fun a b => a ≤ b) ids).eraseDups

/-- The interceptors of a list whose identity is not among some. -/
def withoutIds (ids : List ServiceId) (interceptors : List Content) : List Content :=
  interceptors.filter fun i => !ids.contains i.id

theorem length_withoutIds_failing_lt {host : Map} {g : Group} {interceptors : List Content}
    (h : failing host g interceptors ≠ []) :
    (withoutIds ((failing host g interceptors).map Content.id) interceptors).length <
      interceptors.length := by
  obtain ⟨i, hi⟩ := List.exists_mem_of_ne_nil _ h
  have hmem : i ∈ interceptors := (List.mem_filter.1 hi).1
  refine List.length_filter_lt_length_iff_exists.2 ⟨i, hmem, ?_⟩
  simpa using ⟨i, hi, rfl⟩

/-- The interceptors that stay when those with unmet requirements are detached round by round, and the
identities of the others, in the order of the rounds. -/
def settle (host : Map) (g : Group) (interceptors : List Content) : List Content × List ServiceId :=
  if _h : failing host g interceptors = [] then (interceptors, [])
  else
    let ids := (failing host g interceptors).map Content.id
    let (kept, detached) := settle host g (withoutIds ids interceptors)
    (kept, sortedIds ids ++ detached)
termination_by interceptors.length
decreasing_by exact length_withoutIds_failing_lt ‹_›

/-- What is left of a group's interceptors, and whether that meets the requirements of the group. -/
structure GroupCheck where
  kept : List Content
  detached : List ServiceId
  /-- Whether the requirements of the group are met. -/
  satisfied : Bool
  deriving DecidableEq, Inhabited

/-- Detach the interceptors of a group with unmet requirements and check the group against the others. -/
def checkGroup (host : Map) (g : Group) (interceptors : List Content) : GroupCheck :=
  let (kept, detached) := settle host g interceptors
  ⟨kept, detached, requirementsMet host g kept g.provider⟩

/-- The handlers whose requirements are met in a group with these interceptors, and the others. -/
def checkHandlers (host : Map) (g : Group) (interceptors handlers : List Content) :
    List Content × List Content :=
  handlers.partition fun c => requirementsMet host g interceptors c.provider

end RouteBinding
