import SchemaClasses.Files.Path
import SchemaClasses.Proofs.Text.Fields

/-!
# Names in paths

A file name without slashes adds one name to the path of its directory, whatever slashes that path
has inside or at its end.  The directories around a path have the names at its start, apart from
points that count for nothing.
-/

namespace SchemaClasses

namespace Path

/-- The names that can stand between two slashes. -/
structure IsName (name : String) : Prop where
  notEmpty : name ≠ ""
  noSlash : '/' ∉ name.toList

theorem names_append_slash (directory rest : String) :
    names (directory ++ "/" ++ rest) = names directory ++ names rest := by
  have listEq : (directory ++ "/" ++ rest).toList = directory.toList ++ '/' :: rest.toList := by
    simp
  rw [names, listEq, Text.fields_append_separator (by decide), List.map_append]
  rfl

variable {name last : String}

theorem IsName.toList_ne_nil (isName : IsName name) : name.toList ≠ [] := by
  simpa using isName.notEmpty

theorem IsName.unseparated (isName : IsName name) :
    ∀ c ∈ name.toList, decide (c = '/') = false := by
  intro c member
  refine decide_eq_false ?_
  rintro rfl
  exact isName.noSlash member

theorem names_of_isName (isName : IsName name) : names name = [name] := by
  simp [names, Text.fields_of_unseparated isName.toList_ne_nil isName.unseparated]

theorem not_isAbsolute_of_isName (isName : IsName name) : isAbsolute name = false := by
  rw [isAbsolute, decide_eq_false_iff_not]
  intro headEq
  exact isName.noSlash (List.mem_of_head? headEq)

theorem isClosed_eq_true_iff {path : String} :
    isClosed path = true ↔ ∃ front : String, path = front ++ "/" := by
  simp only [isClosed, decide_eq_true_eq, List.getLast?_eq_some_iff]
  constructor
  · rintro ⟨front, listEq⟩
    refine ⟨String.ofList front, String.toList_injective ?_⟩
    simp [listEq]
  · rintro ⟨front, rfl⟩
    exact ⟨front.toList, by simp⟩

/-- Joining never makes a name of the directory part of the file name. -/
theorem names_join (directory : String) (isName : IsName name) :
    names (join directory name) = names directory ++ [name] := by
  rw [join, not_isAbsolute_of_isName isName, if_neg (by decide)]
  by_cases isEmpty : directory = ""
  · subst isEmpty
    have noNames : names "" = [] := rfl
    rw [if_pos (by decide), String.empty_append, names_of_isName isName, noNames, List.nil_append]
  · have notEmpty : directory.isEmpty = false := by simpa using isEmpty
    cases closed : isClosed directory with
    | true =>
        obtain ⟨front, rfl⟩ := isClosed_eq_true_iff.mp closed
        have noNames : names "" = [] := rfl
        have frontNames : names (front ++ "/") = names front := by
          simpa [noNames] using names_append_slash front ""
        rw [if_pos (by simp), names_append_slash, frontNames, names_of_isName isName]
    | false =>
        rw [if_neg (by simp [notEmpty]), names_append_slash, names_of_isName isName]

theorem isAbsolute_join (directory : String) (isName : IsName name) :
    isAbsolute (join directory name) = isAbsolute directory := by
  have notAbsolute := not_isAbsolute_of_isName isName
  rw [join, notAbsolute, if_neg (by decide)]
  by_cases isEmpty : directory = ""
  · subst isEmpty
    rw [if_pos (by decide), String.empty_append, notAbsolute]
    rfl
  · have notNil : directory.toList ≠ [] := by simpa using isEmpty
    obtain ⟨first, rest, listEq⟩ := List.exists_cons_of_ne_nil notNil
    split <;> simp [isAbsolute, listEq]

/-- The end of a path without slashes is the end of its last name. -/
theorem exists_getLast?_names {ending path : String} (isName : IsName ending)
    (endsWith : ending.toList <:+ path.toList) :
    ∃ last, (names path).getLast? = some last ∧ ending.toList <:+ last.toList := by
  obtain ⟨start, pathEq⟩ := endsWith
  obtain ⟨front, last, fieldsEq⟩ :=
    Text.exists_fieldsAfter_append isName.toList_ne_nil isName.unseparated [] start
  refine ⟨String.ofList (last ++ ending.toList), ?_, last, by simp⟩
  rw [names, Text.fields, ← pathEq, fieldsEq, List.map_append, List.map_singleton,
    List.getLast?_concat]

theorem endsWith_join {ending file : String} (directory : String)
    (endsWith : ending.toList <:+ file.toList) :
    ending.toList <:+ (join directory file).toList := by
  unfold join
  split
  · exact endsWith
  · split
    · rw [String.toList_append]
      exact endsWith.trans (List.suffix_append _ _)
    · rw [String.toList_append]
      exact endsWith.trans (List.suffix_append _ _)

theorem isName_of_mem_names {path : String} (member : name ∈ names path) : IsName name := by
  obtain ⟨field, inFields, rfl⟩ := List.mem_map.mp member
  obtain ⟨notNil, unseparated⟩ := Text.unseparated_of_mem_fields inFields
  refine ⟨fun isEmpty => notNil ?_, fun slashMem => ?_⟩
  · simpa using congrArg String.toList isEmpty
  · have isSlash := unseparated '/' (by simpa using slashMem)
    nomatch isSlash

theorem names_intercalate {kept : List String} (areNames : ∀ name ∈ kept, IsName name) :
    names ("/".intercalate kept) = kept := by
  induction kept with
  | nil => rfl
  | cons first rest ih =>
      have firstIsName := areNames first List.mem_cons_self
      have restAreNames : ∀ name ∈ rest, IsName name :=
        fun name member => areNames name (List.mem_cons_of_mem _ member)
      cases rest with
      | nil => rw [String.intercalate_singleton, names_of_isName firstIsName]
      | cons second rest =>
          rw [String.intercalate_cons_cons, names_append_slash, names_of_isName firstIsName,
            ih restAreNames, List.singleton_append]

theorem names_absolute {location : List String} (areNames : ∀ name ∈ location, IsName name) :
    names (absolute location) = location := by
  have afterSlash := names_append_slash "" ("/".intercalate location)
  rwa [String.empty_append, names_intercalate areNames] at afterSlash

theorem intercalate_concat (first : String) (rest : List String) (last : String) :
    "/".intercalate (first :: rest ++ [last]) = "/".intercalate (first :: rest) ++ "/" ++ last := by
  induction rest generalizing first with
  | nil =>
      rw [List.singleton_append, String.intercalate_cons_cons, String.intercalate_singleton,
        String.intercalate_singleton]
  | cons second rest ih =>
      rw [List.cons_append, List.cons_append, String.intercalate_cons_cons, ← List.cons_append, ih,
        String.intercalate_cons_cons]
      simp only [String.append_assoc]

theorem not_isClosed_append {front last : String} (isName : IsName last) :
    isClosed (front ++ last) = false := by
  rw [Bool.eq_false_iff]
  intro closed
  obtain ⟨shorter, pathEq⟩ := isClosed_eq_true_iff.mp closed
  have lastEq : last.toList.getLast? = some '/' := by
    have listEq := congrArg (fun path => path.toList.getLast?) pathEq
    simpa [isName.notEmpty] using listEq
  exact isName.noSlash (List.mem_of_getLast? lastEq)

/-- The path of an item in the directory at a location is that of the item's own location. -/
theorem join_absolute {location : List String} (areNames : ∀ name ∈ location, IsName name)
    (isName : IsName name) :
    join (absolute location) name = absolute (location ++ [name]) := by
  have notAbsolute := not_isAbsolute_of_isName isName
  cases location with
  | nil =>
      rw [join, notAbsolute, List.nil_append, absolute, absolute, String.intercalate_singleton]
      rfl
  | cons first rest =>
      have notEmpty : (absolute (first :: rest)).isEmpty = false := by
        simp [absolute]
      have notClosed : isClosed (absolute (first :: rest)) = false := by
        rcases List.eq_nil_or_concat rest with rfl | ⟨front, last, rfl⟩
        · rw [absolute, String.intercalate_singleton]
          exact not_isClosed_append (areNames first List.mem_cons_self)
        · rw [List.concat_eq_append, ← List.cons_append, absolute, intercalate_concat,
            ← String.append_assoc]
          exact not_isClosed_append (areNames last (by simp))
      rw [join, notAbsolute, notEmpty, notClosed, absolute, absolute, intercalate_concat]
      simp [String.append_assoc]

theorem fileName?_absolute {location : List String}
    (areNames : ∀ name ∈ location ++ [last], IsName name) :
    fileName? (absolute (location ++ [last])) = some last := by
  rw [fileName?, names_absolute areNames, List.getLast?_concat]

theorem parent_absolute {location : List String}
    (areNames : ∀ name ∈ location ++ [last], IsName name) :
    parent (absolute (location ++ [last])) = absolute location := by
  rw [parent, names_absolute areNames, List.dropLast_concat]

theorem not_isAbsolute_intercalate {kept : List String} (areNames : ∀ name ∈ kept, IsName name) :
    isAbsolute ("/".intercalate kept) = false := by
  cases kept with
  | nil => rfl
  | cons first rest =>
      have firstIsName := areNames first List.mem_cons_self
      have notAbsolute := not_isAbsolute_of_isName firstIsName
      have notNil : first.toList ≠ [] := by simpa using firstIsName.notEmpty
      obtain ⟨c, cs, listEq⟩ := List.exists_cons_of_ne_nil notNil
      cases rest with
      | nil => rwa [String.intercalate_singleton]
      | cons second rest =>
          rw [String.intercalate_cons_cons]
          simpa [isAbsolute, listEq] using notAbsolute

theorem mem_names_of_mem_significantNames {path : String} (member : name ∈ significantNames path) :
    name ∈ names path := by
  unfold significantNames at member
  split at member
  · exact (List.mem_filter.mp member).1
  · rcases List.mem_append.mp member with first | later
    · exact List.mem_of_mem_take first
    · exact List.mem_of_mem_drop (List.mem_filter.mp later).1

/-- A directory around a path has the first of its names that count. -/
theorem exists_prefix_of_mem_ancestors {path outer : String} (member : outer ∈ ancestors path) :
    names outer <+: significantNames path ∧ isAbsolute outer = isAbsolute path := by
  obtain ⟨dropped, -, rfl⟩ := List.mem_map.mp member
  simp only
  generalize keptEq : (significantNames path).dropLast.take _ = kept
  have isPrefix : kept <+: significantNames path :=
    keptEq ▸ (List.take_prefix _ _).trans (List.dropLast_prefix _)
  have areNames : ∀ name ∈ kept, IsName name := fun name inKept =>
    isName_of_mem_names (mem_names_of_mem_significantNames (isPrefix.subset inKept))
  cases absolute : isAbsolute path with
  | true =>
      have rooted : names ("/" ++ "/".intercalate kept) = kept := names_absolute areNames
      rw [if_pos rfl, rooted]
      exact ⟨isPrefix, by simp [isAbsolute]⟩
  | false =>
      rw [if_neg (by decide), names_intercalate areNames]
      exact ⟨isPrefix, not_isAbsolute_intercalate areNames⟩

end Path
end SchemaClasses
