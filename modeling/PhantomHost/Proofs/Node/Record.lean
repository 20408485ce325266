import PhantomHost.Proofs.Json.Same
import PhantomHost.Proofs.Node.Insert
/-!
The record of a tree tells the tree: two trees have the same record only if they are the same tree.

This holds of records that are written alike, and of records that denote the same. In the second sense two trees are
compared part by part. Their attributes are texts apart from the owner, which is compared as a value; the content that
is missing differs from the one that is empty.
-/
namespace PhantomHost.Node

/-- The attributes of two nodes denote the same. -/
structure SameAttributes (a b : Attributes) : Prop where
  name : a.name = b.name
  permissions : a.permissions = b.permissions
  owner : a.owner.Matches b.owner
  size : a.size = b.size
  modified : a.modified = b.modified

/-- Two trees denote the same: their nodes are of the same kind, with the same attributes and the same content, and
have the same children in the same order. -/
inductive SameTree : Node → Node → Prop where
  | file {a b : Attributes} {content : Option Text} (h : SameAttributes a b) :
      SameTree (file a content) (file b content)
  | dir {a b : Attributes} {children others : List Node} (h : SameAttributes a b)
      (hChildren : List.Forall₂ SameTree children others) : SameTree (dir a children) (dir b others)

theorem same_recordWith_iff {kind other : Text} {a b : Attributes} {key : Text} {held kept : Json}
    (hKey : (["name", "type", "permissions", "owner", "size", "date", key] : List Text).Nodup) :
    (recordWith kind a key held).same (recordWith other b key kept) = true ↔
      kind = other ∧ SameAttributes a b ∧ held.Matches kept := by
  rw [recordWith, recordWith, Json.same_obj_iff (by rfl) (by exact hKey)]
  simp only [List.forall₂_cons, List.Forall₂.nil, Json.matches_text_iff, and_true]
  constructor
  · rintro ⟨hName, hKind, hPermissions, hOwner, hSize, hModified, hHeld⟩
    exact ⟨hKind, ⟨hName, hPermissions, hOwner, hSize, hModified⟩, hHeld⟩
  · rintro ⟨hKind, ⟨hName, hPermissions, hOwner, hSize, hModified⟩, hHeld⟩
    exact ⟨hName, hKind, hPermissions, hOwner, hSize, hModified, hHeld⟩

/-- Records that denote the same are those of nodes of one kind. -/
theorem kind_eq_of_same_recordWith {kind other : Text} {a b : Attributes} {key name : Text} {held kept : Json}
    (h : (recordWith kind a key held).same (recordWith other b name kept) = true) : kind = other := by
  rw [recordWith, recordWith, Json.same, Bool.and_eq_true] at h
  obtain ⟨found, hFound, hMatches⟩ :=
    Json.exists_lookup_of_sameFields h.2 (List.mem_cons_of_mem _ List.mem_cons_self)
  have hType : ("name" : Text) ≠ "type" := by decide
  rw [Json.lookup, if_neg hType, Json.lookup, if_pos rfl] at hFound
  cases hFound
  exact (Json.matches_text_iff kind other).1 hMatches

theorem recordWith_inj {kind other : Text} {a b : Attributes} {key name : Text} {held kept : Json} :
    recordWith kind a key held = recordWith other b name kept ↔ kind = other ∧ a = b ∧ key = name ∧ held = kept := by
  cases a
  cases b
  simp only [recordWith, Json.obj.injEq, List.cons.injEq, Prod.mk.injEq, Json.text.injEq, Attributes.mk.injEq, and_true,
    true_and]
  constructor
  · rintro ⟨hName, hKind, hPermissions, hOwner, hSize, hModified, hKey, hHeld⟩
    exact ⟨hKind, ⟨hName, hPermissions, hOwner, hSize, hModified⟩, hKey, hHeld⟩
  · rintro ⟨hKind, ⟨hName, hPermissions, hOwner, hSize, hModified⟩, hKey, hHeld⟩
    exact ⟨hName, hKind, hPermissions, hOwner, hSize, hModified, hKey, hHeld⟩

theorem file_ne_directory : ("file" : Text) ≠ "directory" := by decide

/-- The content of a file as a value. -/
def heldText (content : Option Text) : Json :=
  content.elim .null .text

theorem heldText_inj {content other : Option Text} : heldText content = heldText other ↔ content = other := by
  cases content <;> cases other <;> simp [heldText]

/-- Content that is missing does not match any text, not even the empty one. -/
theorem heldText_matches_iff {content other : Option Text} :
    (heldText content).Matches (heldText other) ↔ content = other := by
  cases content <;> cases other <;>
    simp [heldText, Json.Matches, Json.same, Json.sameScalar, Json.number?, Json.isNotANumber]

theorem record_file (attributes : Attributes) (content : Option Text) :
    (file attributes content).record = recordWith "file" attributes "content" (heldText content) := by
  cases content <;> rfl

theorem record_dir (attributes : Attributes) (children : List Node) :
    (dir attributes children).record = recordWith "directory" attributes "children" (.arr (records children)) := rfl

mutual

/-- A tree is told by its record. -/
theorem record_inj (a b : Node) : a.record = b.record ↔ a = b := by
  cases a with
  | file x content =>
      cases b with
      | file y other => simp [record_file, recordWith_inj, heldText_inj]
      | dir y others => simp [record_file, record_dir, recordWith_inj]
  | dir x children =>
      cases b with
      | file y other => simp [record_file, record_dir, recordWith_inj]
      | dir y others => simp [record_dir, recordWith_inj, records_inj children others]

/-- A list of trees is told by their records. -/
theorem records_inj (xs ys : List Node) : records xs = records ys ↔ xs = ys := by
  cases xs with
  | nil => cases ys <;> simp [records]
  | cons x xs =>
      cases ys with
      | nil => simp [records]
      | cons y ys => rw [records, records, List.cons.injEq, List.cons.injEq, record_inj x y, records_inj xs ys]

end

theorem matches_record_iff (a b : Node) : a.record.Matches b.record ↔ a.record.same b.record = true := by
  cases a <;> cases b <;> simp only [record_file, record_dir, recordWith, Json.matches_obj_iff]

mutual

/-- Records denote the same if their trees do. -/
theorem same_record_iff (a b : Node) : a.record.same b.record = true ↔ SameTree a b := by
  cases a with
  | file x content =>
      cases b with
      | file y other =>
          rw [record_file, record_file, same_recordWith_iff (by decide), heldText_matches_iff]
          constructor
          · rintro ⟨-, hAttributes, rfl⟩
            exact .file hAttributes
          · intro h
            cases h with
            | file hAttributes => exact ⟨rfl, hAttributes, rfl⟩
      | dir y others =>
          rw [record_file, record_dir]
          exact iff_of_false (fun h => file_ne_directory (kind_eq_of_same_recordWith h)) nofun
  | dir x children =>
      cases b with
      | file y other =>
          rw [record_file, record_dir]
          exact iff_of_false (fun h => file_ne_directory (kind_eq_of_same_recordWith h).symm) nofun
      | dir y others =>
          rw [record_dir, record_dir, same_recordWith_iff (by decide), Json.matches_arr_iff,
            matches_records_iff children others]
          constructor
          · rintro ⟨-, hAttributes, hChildren⟩
            exact .dir hAttributes hChildren
          · intro h
            cases h with
            | dir hAttributes hChildren => exact ⟨rfl, hAttributes, hChildren⟩

theorem matches_records_iff (xs ys : List Node) :
    List.Forall₂ Json.Matches (records xs) (records ys) ↔ List.Forall₂ SameTree xs ys := by
  cases xs with
  | nil => cases ys <;> simp [records]
  | cons x xs =>
      cases ys with
      | nil => simp [records]
      | cons y ys =>
          rw [records, records, List.forall₂_cons, List.forall₂_cons, matches_record_iff, same_record_iff x y,
            matches_records_iff xs ys]

end

/-- A tree is told by its record, and a copy has the record of the tree that it was made of. -/
theorem record_loses_nothing (a b : Node) :
    (a.record = b.record ↔ a = b) ∧ (a.record.same b.record = true ↔ SameTree a b) ∧ a.copy.record = a.record :=
  ⟨record_inj a b, same_record_iff a b, by rw [copy_eq]⟩

end PhantomHost.Node
