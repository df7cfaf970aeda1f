import VisualNovel.Audio
import VisualNovel.Proofs.Dict

/-!
# Streams that repeat

A registry whose streams are in order under their identifiers is known by its streams, and the
streams that repeat make up the registry that they are put into.
-/

namespace VisualNovel.AudioRegistry

variable {registry other : AudioRegistry}

/-- Streams are put into a registry under their identifiers. -/
theorem insertAll_streams (streams : List AudioStream) (registry : AudioRegistry) :
    (streams.foldl insert registry).streams =
      Dict.union registry.streams (streams.map fun stream => (stream.id, stream)) := by
  simp only [Dict.union]
  rw [List.foldl_map]
  induction streams generalizing registry with
  | nil => rfl
  | cons stream streams ih => exact ih (registry.insert stream)

/-- The streams that repeat with their identifiers are entries of the registry. -/
theorem loopingStreams_pairs (keyed : ∀ entry ∈ registry.streams, entry.2.id = entry.1) :
    (registry.loopingStreams.map fun stream => (stream.id, stream)) =
      registry.streams.filter fun entry => entry.2.looping := by
  simp only [loopingStreams, Dict.values]
  rw [List.filter_map, List.map_map]
  apply (List.map_congr_left ?_).trans (List.map_id' _)
  intro entry member
  obtain ⟨id, stream⟩ := entry
  have same := keyed _ (List.mem_filter.1 member).1
  dsimp only at same
  simp only [Function.comp_apply, same]

theorem loopingStreams_filter (registry : AudioRegistry) :
    registry.loopingStreams.filter AudioStream.looping = registry.loopingStreams := by
  simp only [loopingStreams]
  rw [List.filter_filter]
  simp only [Bool.and_self]

/-- The dictionary of the streams that repeat. -/
theorem ofPairs_loopingStreams (sorted : Dict.Sorted registry.streams)
    (keyed : ∀ entry ∈ registry.streams, entry.2.id = entry.1) :
    Dict.ofPairs (registry.loopingStreams.map fun stream => (stream.id, stream)) =
      registry.streams.filter fun entry => entry.2.looping := by
  rw [loopingStreams_pairs keyed]
  exact (sorted.filter _).ofPairs_eq

/-- A registry that holds the streams of another one that repeat, and no others. -/
theorem loopingStreams_of_filter
    (streams : other.streams = registry.streams.filter fun entry => entry.2.looping) :
    other.loopingStreams = registry.loopingStreams := by
  simp only [loopingStreams, Dict.values]
  rw [streams, List.filter_map, List.filter_map, List.filter_filter]
  congr 1
  apply List.filter_congr
  intro entry member
  exact Bool.and_self _

/-- The entries that repeat give back the streams with their keys as identifiers. -/
theorem keyed_loopingStreams (keyed : ∀ entry ∈ registry.streams, entry.2.id = entry.1) :
    (((registry.streams.filter fun entry => entry.2.looping).map fun entry =>
      { entry.2 with id := entry.1 }).filter AudioStream.looping) = registry.loopingStreams := by
  rw [← loopingStreams_filter registry, ← loopingStreams_pairs keyed, List.map_map]
  congr 1
  exact List.map_id' _

end VisualNovel.AudioRegistry
