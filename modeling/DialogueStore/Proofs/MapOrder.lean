/-
The members of a record are in order.

A record carries all members along that it does not interpret, and keeps them as a map.
A list of entries is a map just if it is in order, and so much is asked for where two
records are compared as maps.  It is true of every record: of one that is read from a text
(`Record.sorted_of_decode`), and of all that become of such records in an engine
(`Engine.sorted_entry`).
-/
import DialogueStore.Proofs.ReadBack
import DialogueStore.Proofs.Records

namespace DialogueStore

namespace Record

/-- The other members of a record that is read are in order. -/
theorem sorted_of_decode {src : Json.Source} {r : Record} (h : decode src = .ok r) :
    r.extra.Sorted := by
  obtain ⟨ms, vs, -, -, hread⟩ := exists_of_decode h
  exact hread.read.keeps.sorted

theorem sorted_merge {sender : String} {cached? : Option Record} {remote : Record} {cap : Nat}
    (hcached : ∀ r ∈ cached?, r.extra.Sorted) (hremote : remote.extra.Sorted) :
    (merge sender cached? remote cap).extra.Sorted := by
  cases cached? with
  | none =>
    rw [merge]
    split
    · exact hremote
    · exact hremote
  | some cached => exact (hcached cached rfl).union remote.extra

end Record

/-- **The members of all cached records are in order.**  It takes no more than that those of the
records are that are to be saved, and of those that are fetched. -/
theorem Engine.sorted_entry {e : Engine} {actions : List Action}
    (hsaves : ∀ id r, .begin id (.save r) ∈ actions → r.extra.Sorted)
    (hsnapshots : ∀ id snapshot, .reply id (.fetched (.ok (some snapshot))) ∈ actions →
      snapshot.tracker.extra.Sorted) (sender : String) :
    ((e.after actions).cache.entry sender).All fun r => r.extra.Sorted := by
  refine all_entry actions fun m hm t hactor _ => ⟨?_, ?_⟩
  · intro r hop
    obtain ⟨rest, hrest⟩ := exists_of_mem_moments hm
    obtain ⟨original, hbegun, rfl⟩ := e.begun_of_save (EngineState.mem_of_actor? hactor) hop
    have hmem := e.mem_of_begun hbegun
    exact hsaves _ original (hrest ▸ List.mem_append_left _ hmem)
  · intro id snapshot haction hcached
    exact Record.sorted_merge hcached (hsnapshots id snapshot (haction ▸ mem_of_mem_moments hm))

end DialogueStore
