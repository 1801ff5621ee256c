import Http2.Stream.Registry

/-!
The numbers in a registry of streams. They are odd, were given out, and none occurs twice, so a
stream is found under its own number; and a registry evolves by giving out numbers, changing streams
and dropping those that ended.
-/

namespace Http2.Stream.Registry

/-- The streams of a registry have odd numbers that were given out, and no number twice. -/
structure Sound (r : Registry) : Prop where
  odd : ∀ s ∈ r.streams, s.id % 2 = 1
  below : ∀ s ∈ r.streams, s.id < r.nextId
  nodup : (r.streams.map Stream.id).Nodup
  next : r.nextId % 2 = 1

variable {r : Registry}

theorem sound_empty : Sound {} := ⟨nofun, nofun, .nil, rfl⟩

theorem map_id_modify (r : Registry) (id : Nat) {g : Stream → Stream}
    (hg : ∀ s, (g s).id = s.id) : (r.modify id g).streams.map Stream.id =
      r.streams.map Stream.id := by
  simp only [modify, List.map_map]
  refine List.map_congr_left fun s _ => ?_
  simp only [Function.comp]
  split
  · exact hg s
  · rfl

theorem Sound.modify (h : r.Sound) (id : Nat) {g : Stream → Stream}
    (hg : ∀ s, (g s).id = s.id) : (r.modify id g).Sound := by
  have hmem {s : Stream} (hs : s ∈ (r.modify id g).streams) : ∃ s' ∈ r.streams, s'.id = s.id := by
    obtain ⟨s', hs', rfl⟩ := List.mem_map.1 hs
    refine ⟨s', hs', ?_⟩
    split
    · exact (hg s').symm
    · rfl
  refine ⟨fun s hs => ?_, fun s hs => ?_, by rw [map_id_modify r id hg]; exact h.nodup, h.next⟩
  · obtain ⟨s', hs', heq⟩ := hmem hs
    exact heq ▸ h.odd s' hs'
  · obtain ⟨s', hs', heq⟩ := hmem hs
    exact heq ▸ h.below s' hs'

theorem Sound.dropClosed (h : r.Sound) : r.dropClosed.Sound where
  odd := fun s hs => h.odd s ((List.mem_filter.1 hs).1)
  below := fun s hs => h.below s ((List.mem_filter.1 hs).1)
  nodup := h.nodup.sublist (List.filter_sublist.map Stream.id)
  next := h.next

def created (r : Registry) : Registry :=
  ⟨r.streams ++ [.new r.nextId], r.nextId + 2⟩

theorem Sound.created (h : r.Sound) : r.created.Sound := by
  have hnext := h.next
  refine ⟨fun s hs => ?_, fun s hs => ?_, ?_, ?_⟩
  · rcases List.mem_append.1 hs with hs | hs
    · exact h.odd s hs
    · rw [List.mem_singleton.1 hs]
      exact hnext
  · have hlt : r.nextId < r.nextId + 2 := Nat.lt_add_of_pos_right (by decide)
    rcases List.mem_append.1 hs with hs | hs
    · exact Nat.lt_trans (h.below s hs) hlt
    · rw [List.mem_singleton.1 hs]
      exact hlt
  · simp only [Registry.created, List.map_append, List.map_cons, List.map_nil]
    refine List.nodup_append.2 ⟨h.nodup, by simp, fun id hid other hother => ?_⟩
    obtain ⟨s, hs, rfl⟩ := List.mem_map.1 hid
    rw [List.mem_singleton.1 hother]
    exact Nat.ne_of_lt (h.below s hs)
  · change (r.nextId + 2) % 2 = 1
    omega

theorem Sound.find?_eq_some (h : r.Sound) {s : Stream} (hs : s ∈ r.streams) :
    r.find? s.id = some s := by
  obtain ⟨streams, next⟩ := r
  have hnodup : (streams.map Stream.id).Nodup := h.nodup
  clear h
  change s ∈ streams at hs
  change streams.find? _ = _
  induction streams with
  | nil => cases hs
  | cons s' ss ih =>
    rw [List.map_cons, List.nodup_cons] at hnodup
    rcases List.mem_cons.1 hs with rfl | hs
    · simp
    · have hne : s'.id ≠ s.id := fun heq => hnodup.1 (heq ▸ List.mem_map_of_mem hs)
      rw [List.find?_cons_of_neg (by simpa using hne)]
      exact ih hnodup.2 hs

/-- From `r` to `r'` so many numbers were given out, and no stream was dropped before it ended. -/
structure Evolves (r r' : Registry) (count : Nat) : Prop where
  nextId : r'.nextId = r.nextId + 2 * count
  sound : r'.Sound
  keeps : ∀ s ∈ r.streams, s.state ≠ .closed → s.id ∈ r'.streams.map Stream.id

theorem Sound.evolves (h : r.Sound) : r.Evolves r 0 :=
  ⟨rfl, h, fun _ hs _ => List.mem_map_of_mem hs⟩

theorem Sound.evolves_dropClosed (h : r.Sound) : r.Evolves r.dropClosed 0 :=
  ⟨rfl, h.dropClosed, fun s hs hopen =>
    List.mem_map_of_mem (List.mem_filter.2 ⟨hs, by simpa using hopen⟩)⟩

theorem Evolves.created {r' : Registry} {count : Nat} (h : r.Evolves r' count) :
    r.Evolves r'.created (count + 1) where
  nextId := by
    change r'.nextId + 2 = _
    rw [h.nextId]
    omega
  sound := h.sound.created
  keeps := fun s hs hopen => by
    simp only [Registry.created, List.map_append]
    exact List.mem_append_left _ (h.keeps s hs hopen)

theorem Evolves.modify {r' : Registry} {count : Nat} (h : r.Evolves r' count) (id : Nat)
    {g : Stream → Stream} (hg : ∀ s, (g s).id = s.id) : r.Evolves (r'.modify id g) count :=
  ⟨h.nextId, h.sound.modify id hg, fun s hs hopen => by
    rw [map_id_modify r' id hg]
    exact h.keeps s hs hopen⟩

end Http2.Stream.Registry
