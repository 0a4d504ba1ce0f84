import Mathlib.Data.List.Nodup
import Permalink.Proofs.Selection.KeyPaths

/-!
# Selection — the tree of some paths

Inserting paths one after the other makes a tree whose nodes are the starts of the paths.  It is
known by what is at its nodes: `keysAt p` are the keys of the node to which `p` leads, in their
order.

* `keysAt_insert`: inserting a path adds to each node the key that the path has behind it, as the
  last, unless it is there.  So in the tree of some paths **each node has the keys that the paths
  have behind it, in the order of their first mention** (`keysAt_ofPaths`).
* `eq_of_keysAt`: a selection in which no node has a key twice is determined by its keys.
* `isTrie_iff`: so there is one ordered tree of some paths.  A path that is in it already can be
  left out (`ofPaths_append_cons`), more paths only add keys behind others
  (`keysAt_ofPaths_prefix`), and paths in another order make the same tree with keys in another
  order (`perm_keysAt_ofPaths`).
-/

namespace Permalink

namespace Selection

/-! ### The keys at a node -/

/-- What is selected below the node at a path of keys; nothing if there is no such node. -/
def nodeAt : List Text → Selection → Selection
  | [], s => s
  | key :: p, s => nodeAt p ((s.children.lookup key).getD empty)

/-- The keys of the node at a path, in order; none if there is no such node. -/
def keysAt (p : List Text) (s : Selection) : List Text := (nodeAt p s).children.map (·.1)

theorem keysAt_cons (key : Text) (p : List Text) (s : Selection) :
    keysAt (key :: p) s = keysAt p ((s.children.lookup key).getD empty) := rfl

theorem keysAt_empty : ∀ p : List Text, keysAt p empty = []
  | [] => rfl
  | _ :: p => keysAt_empty p

/-- The key that a path has behind `p`, if it starts with `p` and goes on. -/
def nextKey? : List Text → List Text → Option Text
  | [], path => path.head?
  | _ :: _, [] => none
  | key :: p, key' :: path => if key' = key then nextKey? p path else none

theorem nextKey?_eq_some_iff {key : Text} : ∀ {p path : List Text},
    nextKey? p path = some key ↔ p ++ [key] <+: path
  | [], [] => by simp [nextKey?]
  | [], _ :: _ => by simp [nextKey?, eq_comm]
  | _ :: _, [] => by simp [nextKey?]
  | k :: p, k' :: path => by
      rw [nextKey?, List.cons_append, List.cons_prefix_cons, ← nextKey?_eq_some_iff]
      by_cases hk : k' = k
      · simp [hk]
      · simp [hk, Ne.symm hk]

theorem nextKey?_nil_right : ∀ p : List Text, nextKey? p [] = none
  | [] => rfl
  | _ :: _ => rfl

/-! ### Inserting a path -/

/-- The keys with one more behind, if there is one and it is new. -/
def withKey (key? : Option Text) (keys : List Text) : List Text :=
  match key? with
  | none => keys
  | some key => if key ∈ keys then keys else keys ++ [key]

theorem map_fst_alter (key : Text) (f : Selection → Selection) (cs : List (Text × Selection)) :
    (alter key f cs).map (·.1) = withKey (some key) (cs.map (·.1)) := by
  induction cs with
  | nil => rfl
  | cons c rest ih =>
      obtain ⟨k, s⟩ := c
      rw [alter]
      split
      · next hk =>
        subst hk
        simp [withKey]
      · next hk =>
        rw [List.map_cons, ih]
        simp only [withKey, List.map_cons, List.mem_cons, Ne.symm hk, false_or]
        split
        · rfl
        · rfl

theorem lookup_cons_eq_ite (key k : Text) (s : Selection) (rest : List (Text × Selection)) :
    ((k, s) :: rest).lookup key = if key = k then some s else rest.lookup key := by
  rw [List.lookup_cons]
  by_cases hk : key = k
  · simp [hk]
  · rw [beq_false_of_ne hk, if_neg hk]

theorem lookup_alter (key : Text) (f : Selection → Selection) (cs : List (Text × Selection))
    (key' : Text) : (alter key f cs).lookup key' =
      if key' = key then some (f ((cs.lookup key).getD empty)) else cs.lookup key' := by
  induction cs with
  | nil => exact lookup_cons_eq_ite key' key _ []
  | cons c rest ih =>
      obtain ⟨k, s⟩ := c
      rw [alter, lookup_cons_eq_ite key', lookup_cons_eq_ite key]
      by_cases hk : k = key
      · subst hk
        rw [if_pos rfl, if_pos rfl, lookup_cons_eq_ite, Option.getD_some]
        split
        · rfl
        · rfl
      · rw [if_neg hk, if_neg (Ne.symm hk), lookup_cons_eq_ite, ih]
        -- The entry in front is of another key than the one that is changed.
        by_cases hk' : key' = k
        · subst hk'
          rw [if_pos rfl, if_pos rfl, if_neg hk]
        · rw [if_neg hk', if_neg hk']

/-- **Inserting a path** adds to each node the key that the path has behind it. -/
theorem keysAt_insert : ∀ (path p : List Text) (s : Selection),
    keysAt p (insert path s) = withKey (nextKey? p path) (keysAt p s)
  | [], p, s => by
      rw [insert_nil, nextKey?_nil_right]
      rfl
  | key :: path, [], s => map_fst_alter key (insert path) s.children
  | key :: path, k :: p, s => by
      rw [keysAt_cons, keysAt_cons, children_insert_cons, lookup_alter, nextKey?]
      by_cases hk : k = key
      · subst hk
        rw [if_pos rfl, if_pos rfl, Option.getD_some, keysAt_insert path p]
      · rw [if_neg hk, if_neg (Ne.symm hk)]
        rfl

/-! ### The tree of some paths -/

/-- The keys that the paths have behind `p`, in the order of their first mention. -/
def mentioned (p : List Text) (paths : List (List Text)) : List Text :=
  (paths.filterMap (nextKey? p)).eraseDups

theorem ofPaths_append_singleton (paths : List (List Text)) (path : List Text) :
    ofPaths (paths ++ [path]) = insert path (ofPaths paths) := by
  rw [ofPaths, List.foldl_append]
  rfl

theorem eraseDups_append_singleton (keys : List Text) (key : Text) :
    (keys ++ [key]).eraseDups = withKey (some key) keys.eraseDups := by
  rw [List.eraseDups_append, withKey, List.removeAll, List.filter_cons]
  simp only [List.mem_eraseDups]
  split
  · next hnew =>
    rw [if_neg (by simpa using hnew)]
    rfl
  · next hold =>
    rw [if_pos (by simpa using hold)]
    simp

/-- One more path mentions at most one more key. -/
theorem mentioned_append_singleton (p : List Text) (paths : List (List Text)) (path : List Text) :
    mentioned p (paths ++ [path]) = withKey (nextKey? p path) (mentioned p paths) := by
  rw [mentioned, mentioned, List.filterMap_append]
  cases hnext : nextKey? p path with
  | none =>
      rw [List.filterMap_cons_none hnext, List.filterMap_nil, List.append_nil]
      rfl
  | some key =>
      rw [List.filterMap_cons_some hnext, List.filterMap_nil, eraseDups_append_singleton]

/-- **The tree of some paths**: each node has the keys that the paths mention behind it. -/
theorem keysAt_ofPaths (p : List Text) (paths : List (List Text)) :
    keysAt p (ofPaths paths) = mentioned p paths := by
  induction paths using List.reverseRecOn with
  | nil => exact keysAt_empty p
  | append_singleton paths path ih =>
      rw [ofPaths_append_singleton, keysAt_insert, mentioned_append_singleton, ih]

theorem mem_mentioned {p : List Text} {paths : List (List Text)} {key : Text} :
    key ∈ mentioned p paths ↔ ∃ path ∈ paths, p ++ [key] <+: path := by
  rw [mentioned, List.mem_eraseDups, List.mem_filterMap]
  simp only [nextKey?_eq_some_iff]

theorem nodup_withKey {keys : List Text} (h : keys.Nodup) (key? : Option Text) :
    (withKey key? keys).Nodup := by
  cases key? with
  | none => exact h
  | some key =>
      rw [withKey]
      split
      · exact h
      · next hnew => exact h.append (List.nodup_singleton key) (by simpa using hnew)

theorem nodup_mentioned (p : List Text) (paths : List (List Text)) :
    (mentioned p paths).Nodup := by
  induction paths using List.reverseRecOn with
  | nil => exact .nil
  | append_singleton paths path ih =>
      rw [mentioned_append_singleton]
      exact nodup_withKey ih _

/-! ### The keys determine the tree -/

theorem lookup_eq_none_of_not_mem {key : Text} {cs : List (Text × Selection)}
    (h : key ∉ cs.map (·.1)) : cs.lookup key = none := by
  rw [List.lookup_eq_none_iff]
  intro c hc
  exact bne_iff_ne.2 fun he => h (he ▸ List.mem_map_of_mem hc)

/-- The keys at the nodes of a level without its first entry. -/
theorem keysAt_rest {key : Text} {s : Selection} {rest : List (Text × Selection)}
    (h : key ∉ rest.map (·.1)) (k : Text) (p : List Text) : keysAt (k :: p) (node rest) =
      if k = key then [] else keysAt (k :: p) (node ((key, s) :: rest)) := by
  rw [keysAt_cons, keysAt_cons, children, children, lookup_cons_eq_ite]
  split
  · next hk =>
    rw [hk, lookup_eq_none_of_not_mem h]
    exact keysAt_empty p
  · rfl

mutual

/-- **A selection in which no node has a key twice** is determined by the keys at its nodes. -/
theorem eq_of_keysAt : ∀ {s s' : Selection}, (∀ p, (keysAt p s).Nodup) →
    (∀ p, keysAt p s = keysAt p s') → s = s'
  | node _, node _, hnodup, h => congrArg node (entries_eq_of_keysAt hnodup h)

theorem entries_eq_of_keysAt : ∀ {cs cs' : List (Text × Selection)},
    (∀ p, (keysAt p (node cs)).Nodup) → (∀ p, keysAt p (node cs) = keysAt p (node cs')) → cs = cs'
  | [], [], _, _ => rfl
  | [], _ :: _, _, h => absurd (h []) (List.cons_ne_nil _ _).symm
  | _ :: _, [], _, h => absurd (h []) (List.cons_ne_nil _ _)
  | (key, s) :: rest, (key', s') :: rest', hnodup, h => by
      obtain ⟨hkey, hkeys⟩ : key = key' ∧ rest.map (·.1) = rest'.map (·.1) := List.cons.inj (h [])
      subst hkey
      have hnew : key ∉ rest.map (·.1) := (List.nodup_cons.1 (hnodup [])).1
      have hnew' : key ∉ rest'.map (·.1) := hkeys ▸ hnew
      have hfirst : ∀ (s : Selection) (rest : List (Text × Selection)) (p : List Text),
          keysAt (key :: p) (node ((key, s) :: rest)) = keysAt p s := by
        intro s rest p
        rw [keysAt_cons, children, lookup_cons_eq_ite, if_pos rfl, Option.getD_some]
      have hs : s = s' := eq_of_keysAt (fun p => hfirst s rest p ▸ hnodup (key :: p)) fun p => by
        rw [← hfirst s rest p, ← hfirst s' rest' p, h (key :: p)]
      have hrest : rest = rest' := entries_eq_of_keysAt
        (fun p => by
          cases p with
          | nil => exact (List.nodup_cons.1 (hnodup [])).2
          | cons k p =>
              rw [keysAt_rest hnew]
              split
              · exact .nil
              · exact hnodup (k :: p))
        (fun p => by
          cases p with
          | nil => exact hkeys
          | cons k p => rw [keysAt_rest hnew, keysAt_rest hnew', h (k :: p)])
      rw [hs, hrest]

end

/-! ### The tree of some paths is one -/

/-- The selection is the ordered tree of some paths: its nodes are their nonempty starts, and each
node has the keys that the paths have behind it, in the order of their first mention. -/
structure IsTrie (paths : List (List Text)) (s : Selection) : Prop where
  mem_keyPaths : ∀ p, p ∈ s.keyPaths ↔ ∃ path ∈ paths, IsStart p path
  keysAt_eq : ∀ p, s.keysAt p = mentioned p paths

variable {paths : List (List Text)}

/-- **There is one tree of some paths**, which is made by inserting them. -/
theorem isTrie_iff {s : Selection} : IsTrie paths s ↔ s = ofPaths paths := by
  constructor
  · intro h
    refine eq_of_keysAt (fun p => ?_) fun p => ?_
    · rw [h.keysAt_eq]
      exact nodup_mentioned p paths
    · rw [h.keysAt_eq, keysAt_ofPaths]
  · rintro rfl
    exact ⟨fun p => mem_keyPaths_ofPaths, fun p => keysAt_ofPaths p paths⟩

theorem nodup_keysAt_ofPaths (p : List Text) (paths : List (List Text)) :
    (keysAt p (ofPaths paths)).Nodup := by
  rw [keysAt_ofPaths]
  exact nodup_mentioned p paths

/-- **A path that is there** changes nothing when it is inserted. -/
theorem insert_of_mem_keyPaths {path : List Text} (h : path ∈ (ofPaths paths).keyPaths) :
    insert path (ofPaths paths) = ofPaths paths := by
  have hkeys : ∀ p, keysAt p (insert path (ofPaths paths)) = keysAt p (ofPaths paths) := by
    intro p
    rw [keysAt_insert]
    cases hnext : nextKey? p path with
    | none => rfl
    | some key =>
        -- The path starts one that was inserted, so that mentions the key as well.
        obtain ⟨path', hpath', -, hstart⟩ := mem_keyPaths_ofPaths.1 h
        have hmem : key ∈ keysAt p (ofPaths paths) := by
          rw [keysAt_ofPaths, mem_mentioned]
          exact ⟨path', hpath', (nextKey?_eq_some_iff.1 hnext).trans hstart⟩
        exact if_pos hmem
  refine eq_of_keysAt (fun p => ?_) hkeys
  rw [hkeys]
  exact nodup_keysAt_ofPaths p paths

/-- **A path that is there already** can be left out later. -/
theorem ofPaths_append_cons {front : List (List Text)} {path : List Text}
    (h : path ∈ (ofPaths front).keyPaths) (back : List (List Text)) :
    ofPaths (front ++ path :: back) = ofPaths (front ++ back) := by
  have hfold : ∀ ps, ofPaths (front ++ ps) =
      ps.foldl (fun s path => insert path s) (ofPaths front) := fun ps => by
    rw [ofPaths, List.foldl_append]
    rfl
  rw [hfold, hfold, List.foldl_cons, insert_of_mem_keyPaths h]

/-- **More paths** add keys behind those that a node has. -/
theorem keysAt_ofPaths_prefix (p : List Text) (front back : List (List Text)) :
    keysAt p (ofPaths front) <+: keysAt p (ofPaths (front ++ back)) := by
  rw [keysAt_ofPaths, keysAt_ofPaths, mentioned, mentioned, List.filterMap_append,
    List.eraseDups_append]
  exact List.prefix_append _ _

/-- **The order of paths** has a part in the order of keys only. -/
theorem perm_keysAt_ofPaths {paths' : List (List Text)} (h : paths.Perm paths') (p : List Text) :
    (keysAt p (ofPaths paths)).Perm (keysAt p (ofPaths paths')) := by
  rw [List.perm_ext_iff_of_nodup (nodup_keysAt_ofPaths p paths) (nodup_keysAt_ofPaths p paths')]
  intro key
  rw [keysAt_ofPaths, keysAt_ofPaths, mem_mentioned, mem_mentioned]
  simp only [h.mem_iff]

end Selection
end Permalink
