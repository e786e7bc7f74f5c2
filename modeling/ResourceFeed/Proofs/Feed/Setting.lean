import ResourceFeed.Proofs.Feed.Address

/-! # The last value set counts

    The address of the first page is that of the query with a parameter set,
    and the address of a further page is that of the page before with another
    one set, so the same parameters are set over and over on addresses of any
    shape.  The parameters that an address has then are those that it had, but
    for the name that was set, with the new one behind them.  All else follows
    from this: an earlier value of the same name is gone, and two names can be
    set in either order.

    In the main statement parameters are read with the functions on lists, not
    with those that take an address apart to set one.
-/

namespace ResourceFeed

namespace Address

/-! ### Names -/

section names
variable {name other : List Char}

theorem hasName_set (name value : List Char) : hasName name (name ++ '=' :: value) = true := by
  have hsplit : name ++ '=' :: value = (name ++ ['=']) ++ value := List.append_cons _ _ _
  rw [hasName, hsplit, List.isPrefixOf_iff_prefix]
  exact List.prefix_append _ _

/-- A name ends at the first equals sign. -/
theorem hasName_of_ne (hname : '=' ∉ name) (hother : '=' ∉ other) (hne : name ≠ other)
    (value : List Char) : hasName name (other ++ '=' :: value) = false := by
  rw [← Bool.not_eq_true, hasName, List.isPrefixOf_iff_prefix]
  rintro ⟨behind, hsame⟩
  rw [← List.append_cons] at hsame
  have hsplit := congrArg (Text.splitFirst '=') hsame
  rw [Text.splitFirst_append hname, Text.splitFirst_append hother] at hsplit
  exact hne (congrArg Prod.fst hsplit)

end names

/-! ### Addresses after a parameter is set -/

/-- The parameters of an address that have another name. -/
def others (name address : List Char) : List (List Char) :=
  (parameters address).filter fun parameter => !hasName name parameter

section setting
variable {name : List Char} (address value : List Char)

theorem not_mem_path : '?' ∉ path address := by
  rw [path, Text.splitFirst_eq]
  intro hmem
  exact absurd (List.all_eq_true.mp List.all_takeWhile _ hmem) (by decide)

variable {address} in
theorem isSolid_of_mem_parameters {parameter : List Char}
    (hparameter : parameter ∈ parameters address) : IsSolid parameter := by
  unfold parameters at hparameter
  split at hparameter
  · cases hparameter
  · obtain ⟨hpiece, hfilled⟩ := List.mem_filter.mp hparameter
    refine ⟨?_, Text.not_mem_of_mem_pieces hpiece⟩
    rintro rfl
    cases hfilled

/-- Setting a parameter leaves the others, with it behind them. -/
theorem setChars_eq (name : List Char) :
    setChars address name value =
      withClauses (path address) (others name address ++ [name ++ '=' :: value]) := by
  unfold setChars withClauses
  split
  · rename_i hnone
    exact absurd hnone (List.append_ne_nil_of_right_ne_nil _ (List.cons_ne_nil _ _))
  · rfl

theorem path_setChars (name : List Char) : path (setChars address name value) = path address := by
  rw [setChars_eq, path_withClauses (not_mem_path address)]

variable {value}
variable (hname : '&' ∉ name) (hvalue : '&' ∉ value)
include hname hvalue

theorem parameters_setChars :
    parameters (setChars address name value) = others name address ++ [name ++ '=' :: value] := by
  rw [setChars_eq, parameters_withClauses (not_mem_path address)]
  rw [List.forall_mem_append, List.forall_mem_singleton]
  refine ⟨fun clause hclause => isSolid_of_mem_parameters (List.mem_filter.mp hclause).1, ?_, ?_⟩
  · exact List.append_ne_nil_of_right_ne_nil _ (List.cons_ne_nil _ _)
  · simp [hname, hvalue]

/-- What is set is the only parameter of its name. -/
theorem filter_hasName_setChars :
    (parameters (setChars address name value)).filter (hasName name) =
      [name ++ '=' :: value] := by
  have hnone : (others name address).filter (hasName name) = [] := by
    rw [others, List.filter_filter, List.filter_eq_nil_iff]
    simp
  rw [parameters_setChars address hname hvalue, List.filter_append, hnone, List.nil_append,
    List.filter_cons_of_pos (hasName_set name value), List.filter_nil]

theorem others_setChars : others name (setChars address name value) = others name address := by
  rw [others, parameters_setChars address hname hvalue, List.filter_append, others,
    List.filter_filter]
  simp [hasName_set]

theorem others_setChars_of_ne {other : List Char} (hne : hasName other (name ++ '=' :: value) = false) :
    others other (setChars address name value) =
      (parameters address).filter (fun parameter =>
        !hasName name parameter && !hasName other parameter) ++ [name ++ '=' :: value] := by
  rw [others, parameters_setChars address hname hvalue, List.filter_append, others,
    List.filter_filter]
  simp [hne, Bool.and_comm]

end setting

/-! ### Addresses as lists of characters -/

/-- What stands before the first question mark of an address. -/
def frontOf (address : String) : List Char :=
  address.toList.takeWhile (· != '?')

/-- What stands behind it between ampersands, without what is empty. -/
def parametersOf (address : String) : List (List Char) :=
  ((address.toList.dropWhile (· != '?')).tail.splitOn '&').filter fun parameter =>
    !parameter.isEmpty

theorem path_eq_frontOf (address : String) : path address.toList = frontOf address := by
  rw [path, Text.splitFirst_eq, frontOf]

theorem parameters_eq_parametersOf (address : String) :
    parameters address.toList = parametersOf address := by
  rw [parameters, Text.splitFirst_eq, parametersOf]
  cases address.toList.dropWhile (· != '?') with
  | nil => rfl
  | cons mark query =>
    simp only [List.tail?_cons, List.tail_cons, Text.pieces_eq_splitOnP, List.splitOn_eq_splitOnP]

theorem toList_parameter (name value : String) :
    (name ++ "=" ++ value).toList = name.toList ++ '=' :: value.toList := by
  simp

/-! ### Main statement -/

/-- **The last value set counts.**  Let two names differ and have neither an
    ampersand nor an equals sign, and let the values have no ampersand.  On
    any address:

    - setting a name twice is setting it to the second value;
    - what is set is the only parameter of its name and stands behind all
      others, which are as they were and in the same order;
    - what stands before the first question mark stays;
    - setting both names in one order or the other makes a difference for the
      last two parameters only. -/
theorem last_value_set_counts {name other : String}
    (hname : '&' ∉ name.toList ∧ '=' ∉ name.toList)
    (hother : '&' ∉ other.toList ∧ '=' ∉ other.toList) (hne : name ≠ other)
    {value newer : String} (hvalue : '&' ∉ value.toList) (hnewer : '&' ∉ newer.toList)
    (address : String) :
    setParameter (setParameter address name value) name newer = setParameter address name newer ∧
    parametersOf (setParameter address name value) =
      ((parametersOf address).filter fun parameter => !hasName name.toList parameter) ++
        [(name ++ "=" ++ value).toList] ∧
    (parametersOf (setParameter address name value)).filter (hasName name.toList) =
      [(name ++ "=" ++ value).toList] ∧
    frontOf (setParameter address name value) = frontOf address ∧
    ∃ rest,
      parametersOf (setParameter (setParameter address name value) other newer) =
        rest ++ [(name ++ "=" ++ value).toList, (other ++ "=" ++ newer).toList] ∧
      parametersOf (setParameter (setParameter address other newer) name value) =
        rest ++ [(other ++ "=" ++ newer).toList, (name ++ "=" ++ value).toList] := by
  simp only [← parameters_eq_parametersOf, ← path_eq_frontOf, toList_parameter, setParameter,
    String.toList_ofList, String.ofList_inj]
  have hdiffer : name.toList ≠ other.toList := fun h => hne (String.toList_inj.mp h)
  refine ⟨?_, parameters_setChars _ hname.1 hvalue, filter_hasName_setChars _ hname.1 hvalue,
    path_setChars _ _ _, ?_⟩
  · -- both addresses have the same path and the same other parameters
    rw [setChars_eq, path_setChars, others_setChars _ hname.1 hvalue, ← setChars_eq]
  · -- what has neither name, in the order in which it was
    refine ⟨(parameters address.toList).filter fun parameter =>
      !hasName name.toList parameter && !hasName other.toList parameter, ?_, ?_⟩
    · rw [parameters_setChars _ hother.1 hnewer, others_setChars_of_ne _ hname.1 hvalue
        (hasName_of_ne hother.2 hname.2 hdiffer.symm _)]
      exact List.append_assoc _ _ _
    · rw [parameters_setChars _ hname.1 hvalue, others_setChars_of_ne _ hother.1 hnewer
        (hasName_of_ne hname.2 hother.2 hdiffer _)]
      simp only [Bool.and_comm]
      exact List.append_assoc _ _ _

/-- A page of contacts, with a question mark and an equals sign in its filter, an empty parameter,
    and a name that begins like another one. -/
def pageOfContacts : String :=
  "https://x/-/c?where=(A eq 'b?c=d')&&count=2&counts=3"

/-- The page size is set again, and then a place to start from. -/
theorem last_count_set_counts :
    setParameter (setParameter pageOfContacts "count" "5") "count" "10" =
      "https://x/-/c?where=(A eq 'b?c=d')&counts=3&count=10" ∧
    ("count" ≠ "startIndex") ∧
    ('&' ∉ "count".toList ∧ '=' ∉ "count".toList) ∧
    ('&' ∉ "startIndex".toList ∧ '=' ∉ "startIndex".toList) ∧
    '&' ∉ "5".toList ∧ '&' ∉ "10".toList ∧
    frontOf (setParameter pageOfContacts "count" "5") = "https://x/-/c".toList ∧
    ∃ rest,
      parametersOf (setParameter (setParameter pageOfContacts "count" "5") "startIndex" "10") =
        rest ++ ["count=5".toList, "startIndex=10".toList] ∧
      parametersOf (setParameter (setParameter pageOfContacts "startIndex" "10") "count" "5") =
        rest ++ ["startIndex=10".toList, "count=5".toList] := by
  have hname : '&' ∉ "count".toList ∧ '=' ∉ "count".toList := by decide
  have hother : '&' ∉ "startIndex".toList ∧ '=' ∉ "startIndex".toList := by decide
  have hne : "count" ≠ "startIndex" := by decide
  obtain ⟨hagain, -, -, hfront, horder⟩ := last_value_set_counts hname hother hne
    (show '&' ∉ "5".toList by decide) (show '&' ∉ "10".toList by decide) pageOfContacts
  have hset : setParameter pageOfContacts "count" "10" =
      "https://x/-/c?where=(A eq 'b?c=d')&counts=3&count=10" := by decide
  exact ⟨hagain.trans hset, hne, hname, hother, by decide, by decide, hfront, horder⟩

end Address

end ResourceFeed
