import ContractReplay.Arguments
import ContractReplay.Proofs.Lists

/-!
# The entries of bound arguments

A parameter that is bound anew keeps its place and takes the new argument, so the names of the
bound parameters stay distinct, in the order in which they were first bound.  Where names are
distinct, the entries are known by the names and by the argument under each of them.
-/

namespace ContractReplay.Arguments

/-- The names of the bound parameters, in the order of binding. -/
def names (arguments : Arguments) : List String :=
  arguments.entries.map Prod.fst

/-- What a parameter is bound to, if it is bound. -/
def argument? (arguments : Arguments) (name : String) : Option Argument :=
  (arguments.entries.find? (·.1 == name)).map Prod.snd

variable {arguments : Arguments} {name other : String} {argument : Argument}

theorem names_empty :
    empty.names = [] :=
  rfl

theorem isBound_iff :
    arguments.isBound name = true ↔ name ∈ arguments.names := by
  simp [isBound, names]

theorem argument?_eq_none_iff :
    arguments.argument? name = none ↔ name ∉ arguments.names := by
  rw [argument?, Option.map_eq_none_iff, List.find?_eq_none, names, List.mem_map]
  constructor
  · rintro absent ⟨entry, member, rfl⟩
    simpa using absent entry member
  · intro unbound entry member
    simpa using fun same : entry.1 = name => unbound ⟨entry, member, same⟩

theorem mem_names_of_argument?
    (bound : arguments.argument? name = some argument) :
    name ∈ arguments.names := by
  by_contra unbound
  cases (argument?_eq_none_iff.mpr unbound).symm.trans bound

theorem mem_names_of_mem
    (member : (name, argument) ∈ arguments.entries) :
    name ∈ arguments.names :=
  List.mem_map.mpr ⟨_, member, rfl⟩

theorem mem_of_argument?
    (bound : arguments.argument? name = some argument) :
    (name, argument) ∈ arguments.entries := by
  rcases Option.map_eq_some_iff.mp bound with ⟨⟨found, held⟩, isFound, rfl⟩
  have sameName : found = name := by
    simpa using List.find?_some isFound
  rw [← sameName]
  exact List.mem_of_find?_eq_some isFound

/-- Where names are distinct, every entry is found under its name. -/
theorem argument?_of_mem
    (distinct : arguments.names.Nodup)
    (member : (name, argument) ∈ arguments.entries) :
    arguments.argument? name = some argument := by
  have found : arguments.entries.find? (·.1 == name) = some (name, argument) :=
    find?_key_of_nodup distinct member
  rw [argument?, found]
  rfl

/-- Where names are distinct, no name has two arguments. -/
theorem eq_of_mem
    (distinct : arguments.names.Nodup)
    {old : Argument}
    (member : (name, argument) ∈ arguments.entries)
    (oldMember : (name, old) ∈ arguments.entries) :
    argument = old := by
  have found := argument?_of_mem distinct member
  rw [argument?_of_mem distinct oldMember] at found
  exact (Option.some.inj found).symm

/-- Entries are known by their names and by the argument under each name. -/
theorem eq_of_names_eq
    {others : Arguments}
    (distinct : arguments.names.Nodup)
    (sameNames : others.names = arguments.names)
    (sameArguments : ∀ entry ∈ others.entries, entry ∈ arguments.entries) :
    others = arguments := by
  have sameLength : others.entries.length = arguments.entries.length := by
    simpa [names] using congrArg List.length sameNames
  have sameEntries : others.entries = arguments.entries := by
    apply List.ext_getElem sameLength
    intro index isOther isEntry
    have sameName : others.entries[index].1 = arguments.entries[index].1 := by
      have sameAt : others.names[index]? = arguments.names[index]? := by
        rw [sameNames]
      simpa [names, isOther, isEntry] using sameAt
    have moved : (arguments.entries[index].1, others.entries[index].2) ∈ arguments.entries := by
      rw [← sameName]
      exact sameArguments _ (List.getElem_mem isOther)
    exact Prod.ext sameName (eq_of_mem distinct moved (List.getElem_mem isEntry))
  cases others
  cases arguments
  exact congrArg Arguments.mk sameEntries

/-! ## Binding -/

theorem keys_bindEntry
    (name : String)
    (argument : Argument)
    (entries : List (String × Argument)) :
    (bindEntry name argument entries).map Prod.fst =
      if name ∈ entries.map Prod.fst then entries.map Prod.fst
      else entries.map Prod.fst ++ [name] := by
  induction entries with
  | nil => rfl
  | cons first later ih =>
      rcases first with ⟨bound, old⟩
      rw [bindEntry]
      by_cases same : bound = name
      · simp [same]
      · rw [if_neg same, List.map_cons, ih]
        have different : name ≠ bound := fun equal => same equal.symm
        by_cases known : name ∈ later.map Prod.fst
        · simp [known, different]
        · simp [known, different]

/-- A name that is bound goes to the end, unless it is there already. -/
theorem names_bind
    (distinct : arguments.names.Nodup)
    (name : String)
    (argument : Argument) :
    (arguments.bind name argument).names = (arguments.names ++ [name]).eraseDups := by
  rw [names, bind, keys_bindEntry, List.eraseDups_append, eraseDups_of_nodup distinct]
  by_cases known : name ∈ arguments.entries.map Prod.fst
  · simp [names, known, List.removeAll]
  · simp [names, known, List.removeAll, List.eraseDups_cons]

/-- A name that is bound already is not bound again. -/
theorem eraseDups_names_append_of_mem
    (distinct : arguments.names.Nodup)
    (isBound : name ∈ arguments.names) :
    (arguments.names ++ [name]).eraseDups = arguments.names := by
  rw [← names_bind distinct name none, names, bind, keys_bindEntry]
  exact if_pos isBound

theorem nodup_names_bind
    (distinct : arguments.names.Nodup)
    (name : String)
    (argument : Argument) :
    (arguments.bind name argument).names.Nodup := by
  rw [names_bind distinct]
  exact nodup_eraseDups _

theorem argument?_bind_self
    (arguments : Arguments)
    (name : String)
    (argument : Argument) :
    (arguments.bind name argument).argument? name = some argument := by
  rcases arguments with ⟨entries⟩
  simp only [argument?, bind]
  induction entries with
  | nil => simp [bindEntry]
  | cons first later ih =>
      rcases first with ⟨bound, old⟩
      rw [bindEntry]
      split_ifs with same
      · simp [same]
      · rw [List.find?_cons_of_neg (by simpa using same)]
        exact ih

theorem argument?_bind_of_ne
    (different : other ≠ name)
    (arguments : Arguments)
    (argument : Argument) :
    (arguments.bind name argument).argument? other = arguments.argument? other := by
  rcases arguments with ⟨entries⟩
  have elsewhere : name ≠ other := different.symm
  simp only [argument?, bind]
  induction entries with
  | nil => simp [bindEntry, elsewhere]
  | cons first later ih =>
      rcases first with ⟨bound, old⟩
      rw [bindEntry]
      split_ifs with same
      · rw [List.find?_cons_of_neg (by simpa [same] using elsewhere),
          List.find?_cons_of_neg (by simpa [same] using elsewhere)]
      · by_cases isOther : bound = other
        · simp [isOther]
        · rw [List.find?_cons_of_neg (by simpa using isOther),
            List.find?_cons_of_neg (by simpa using isOther)]
          exact ih

end ContractReplay.Arguments
