import ClosedShape.Proofs.CheckOutcome
import ClosedShape.SchemaReference
import Mathlib.Data.List.TakeWhile

/-!
# What a reference leads to

A reference is split at its first colon.  Modules are imported one below the other down to the one
that it names, and from there on its path is followed one name at a time.  It leads to a schema if
nothing on the way is missing or fails, and it is refused where the first thing is missing.  A
failure on the way is told as a refusal as well, with two exceptions: an error of a module that
cannot be shown, and an object that fails when it is asked for a member.  Modules that hold only
schemas, values, namespaces and objects that answer have no such failure.
-/

namespace ClosedShape

section Dots

/-- Names, none of them with a dot, that make up a text with dots between them. -/
structure IsDotted (names : List String) (text : String) : Prop where
  nonempty : names ≠ []
  undotted : ∀ name ∈ names, '.' ∉ name.toList
  joined : ".".intercalate names = text

theorem not_mem_of_mem_splitOn {separator : Char} {text piece : List Char}
    (member : piece ∈ text.splitOn separator) : separator ∉ piece := by
  induction text generalizing piece with
  | nil =>
      obtain rfl : piece = [] := by simpa using member
      exact List.not_mem_nil
  | cons c text ih =>
      rw [List.splitOn_cons_eq_if_modifyHead] at member
      split at member
      case isTrue =>
          obtain rfl | later := List.mem_cons.mp member
          · exact List.not_mem_nil
          · exact ih later
      case isFalse differs =>
          obtain ⟨first, others, pieces⟩ :=
            List.exists_cons_of_ne_nil (List.splitOn_ne_nil separator text)
          rw [pieces, List.modifyHead_cons] at member
          obtain rfl | later := List.mem_cons.mp member
          · have absent : separator ∉ first := ih (pieces ▸ List.mem_cons_self)
            have other : separator ≠ c := by
              rintro rfl
              simp at differs
            exact List.not_mem_cons_of_ne_of_not_mem other absent
          · exact ih (pieces ▸ List.mem_cons_of_mem _ later)

/-- The names in a text are its parts between dots. -/
theorem dottedNames_eq_iff {text : String} {names : List String} :
    dottedNames text = names ↔ IsDotted names text := by
  constructor
  · rintro rfl
    refine ⟨by simp [dottedNames], ?_, ?_⟩
    · intro name member
      obtain ⟨piece, split, rfl⟩ := List.mem_map.mp member
      simpa using not_mem_of_mem_splitOn split
    · apply String.toList_inj.mp
      have parts : (dottedNames text).map String.toList = text.toList.splitOn '.' := by
        simp [dottedNames, Function.comp_def]
      rw [String.toList_intercalate, parts]
      exact List.intercalate_splitOn '.'
  · rintro ⟨nonempty, undotted, rfl⟩
    have split : (".".intercalate names).toList.splitOn '.' = names.map String.toList := by
      rw [String.toList_intercalate]
      refine List.splitOn_intercalate '.' ?_ (by simpa using nonempty)
      intro piece member
      obtain ⟨name, inNames, rfl⟩ := List.mem_map.mp member
      exact undotted name inNames
    rw [dottedNames, split]
    simp [Function.comp_def]

end Dots

namespace ModuleMember

/-- Names lead from one member to another if each of them is a member of what those before it lead
to. -/
inductive Leads : ModuleMember → List String → ModuleMember → Prop
  | here {owner : ModuleMember} : Leads owner [] owner
  | on {owner member target : ModuleMember} {name : String} {path : List String}
      (has : owner.member? name = .ok (some member)) (rest : Leads member path target) :
      Leads owner (name :: path) target

variable {owner target : ModuleMember} {path : List String}

theorem follow?_eq_some_iff : owner.follow? path = .ok (some target) ↔ owner.Leads path target := by
  induction path generalizing owner with
  | nil =>
      constructor
      · rintro ⟨⟩
        exact .here
      · rintro ⟨⟩
        rfl
  | cons name path ih =>
      constructor
      · intro followed
        rw [follow?] at followed
        split at followed
        case h_1 member has => exact .on has (ih.mp followed)
        case h_2 other => exact absurd followed (other target)
      · intro leads
        cases leads with
        | on has rest =>
            rw [follow?, has]
            exact ih.mpr rest

/-- Names are not followed beyond the first that gives no member. -/
theorem follow?_eq_iff_of_stop {stop : Except Fault (Option ModuleMember)}
    (stops : ∀ member, stop ≠ .ok (some member)) :
    owner.follow? path = stop ↔ ∃ before name after last,
      path = before ++ name :: after ∧ owner.Leads before last ∧ last.member? name = stop := by
  induction path generalizing owner with
  | nil =>
      constructor
      · intro followed
        exact absurd followed.symm (stops owner)
      · rintro ⟨before, name, after, last, split, _⟩
        simp at split
  | cons name path ih =>
      rw [follow?]
      split
      case h_1 member has =>
          rw [ih]
          constructor
          · rintro ⟨before, missing, after, last, rfl, leads, asked⟩
            exact ⟨name :: before, missing, after, last, rfl, .on has leads, asked⟩
          · rintro ⟨before, missing, after, last, split, leads, asked⟩
            cases leads with
            | here =>
                obtain ⟨rfl, rfl⟩ := List.cons.inj split
                exact absurd (asked.symm.trans has) (stops member)
            | on hasFirst rest =>
                obtain ⟨rfl, rfl⟩ := List.cons.inj split
                cases has.symm.trans hasFirst
                exact ⟨_, missing, after, last, rfl, rest, asked⟩
      case h_2 other =>
          constructor
          · intro asked
            exact ⟨[], name, path, owner, rfl, .here, asked⟩
          · rintro ⟨before, missing, after, last, split, leads, asked⟩
            cases leads with
            | here =>
                obtain ⟨rfl, rfl⟩ := List.cons.inj split
                exact asked
            | on hasFirst rest =>
                obtain ⟨rfl, rfl⟩ := List.cons.inj split
                exact absurd hasFirst (other _)

end ModuleMember

namespace Modules

/-- Names lead from one module to another if each of them is a module below what those before it
lead to.  The body of each module runs before those of the modules below it. -/
inductive Imports (modules : Modules) :
    Option (String × ModuleMember) → List String → Option (String × ModuleMember) → Prop
  | here {parent : Option (String × ModuleMember)} : Imports modules parent [] parent
  | next {parent last : Option (String × ModuleMember)} {name : String} {names : List String}
      {body : ModuleBody} {module : ModuleMember}
      (found : modules.body? (childName parent name) = some body) (runs : body.run = .ok module)
      (rest : Imports modules (some (childName parent name, module)) names last) :
      Imports modules parent (name :: names) last

/-- A module is imported, after those above it. -/
def Gives (modules : Modules) (moduleName : String) (module : ModuleMember) : Prop :=
  ∃ names, IsDotted names moduleName ∧ modules.Imports none names (some (moduleName, module))

/-- A module is not imported, since it or one above it is missing or fails. -/
def Withholds (modules : Modules) (moduleName : String) (failure : ImportFailure) : Prop :=
  ∃ before name after last, IsDotted (before ++ name :: after) moduleName ∧
    modules.Imports none before last ∧
      modules.importNext last (childName last name) = .error failure

variable {modules : Modules} {parent last : Option (String × ModuleMember)} {names : List String}
  {module : ModuleMember} {failure : ImportFailure} {name : String}

theorem importNext_eq_ok_iff :
    modules.importNext parent name = .ok module ↔
      ∃ body, modules.body? name = some body ∧ body.run = .ok module := by
  unfold importNext
  cases modules.body? name <;> simp

theorem childName_childName :
    childName (some (childName parent name, module)) (".".intercalate names) =
      childName parent (name ++ "." ++ ".".intercalate names) := by
  cases parent <;> simp [childName, String.append_assoc]

/-- The last module that is imported has the name that all names make up. -/
theorem Imports.name_eq (imports : modules.Imports parent names last) (nonempty : names ≠ []) :
    last.map Prod.fst = some (childName parent (".".intercalate names)) := by
  induction imports with
  | here => exact absurd rfl nonempty
  | @next parent last name names body module found runs rest ih =>
      cases names with
      | nil =>
          cases rest
          simp
      | cons next names =>
          rw [ih (List.cons_ne_nil _ _), childName_childName]
          simp

theorem importBelow_eq_ok_iff :
    modules.importBelow parent names = .ok module ↔
      ∃ last, modules.Imports parent names last ∧
        last.elim (.namespaceOf []) Prod.snd = module := by
  induction names generalizing parent with
  | nil =>
      constructor
      · rintro ⟨⟩
        exact ⟨parent, .here, rfl⟩
      · rintro ⟨last, imports, rfl⟩
        cases imports
        rfl
  | cons name names ih =>
      rw [importBelow]
      constructor
      · intro imported
        cases stepped : modules.importNext parent (childName parent name) with
        | error failure =>
            rw [stepped] at imported
            cases imported
        | ok first =>
            rw [stepped] at imported
            obtain ⟨body, found, runs⟩ := importNext_eq_ok_iff.mp stepped
            obtain ⟨last, rest, isLast⟩ := ih.mp imported
            exact ⟨last, .next found runs rest, isLast⟩
      · rintro ⟨last, imports, isLast⟩
        cases imports with
        | next found runs rest =>
            rw [importNext_eq_ok_iff.mpr ⟨_, found, runs⟩]
            exact ih.mpr ⟨last, rest, isLast⟩

theorem importBelow_eq_error_iff :
    modules.importBelow parent names = .error failure ↔
      ∃ before name after last, names = before ++ name :: after ∧
        modules.Imports parent before last ∧
          modules.importNext last (childName last name) = .error failure := by
  induction names generalizing parent with
  | nil =>
      constructor
      · rintro ⟨⟩
      · rintro ⟨before, name, after, last, split, _⟩
        simp at split
  | cons name names ih =>
      rw [importBelow]
      cases stepped : modules.importNext parent (childName parent name) with
      | error reason =>
          constructor
          · rintro ⟨⟩
            exact ⟨[], name, names, parent, rfl, .here, stepped⟩
          · rintro ⟨before, missing, after, last, split, imports, fails⟩
            cases imports with
            | here =>
                obtain ⟨rfl, rfl⟩ := List.cons.inj split
                cases stepped.symm.trans fails
                rfl
            | next found runs rest =>
                obtain ⟨rfl, rfl⟩ := List.cons.inj split
                cases stepped.symm.trans (importNext_eq_ok_iff.mpr ⟨_, found, runs⟩)
      | ok first =>
          change modules.importBelow _ names = .error failure ↔ _
          rw [ih]
          constructor
          · rintro ⟨before, missing, after, last, rfl, imports, fails⟩
            obtain ⟨body, found, runs⟩ := importNext_eq_ok_iff.mp stepped
            exact ⟨name :: before, missing, after, last, rfl, .next found runs imports, fails⟩
          · rintro ⟨before, missing, after, last, split, imports, fails⟩
            cases imports with
            | here =>
                obtain ⟨rfl, rfl⟩ := List.cons.inj split
                cases stepped.symm.trans fails
            | next found runs rest =>
                obtain ⟨rfl, rfl⟩ := List.cons.inj split
                cases stepped.symm.trans (importNext_eq_ok_iff.mpr ⟨_, found, runs⟩)
                exact ⟨_, missing, after, last, rfl, rest, fails⟩

theorem importModule_eq_ok_iff :
    modules.importModule name = .ok module ↔ modules.Gives name module := by
  rw [importModule, importBelow_eq_ok_iff]
  constructor
  · rintro ⟨last, imports, isLast⟩
    have dotted : IsDotted (dottedNames name) name := dottedNames_eq_iff.mp rfl
    have named := imports.name_eq dotted.nonempty
    rw [dotted.joined] at named
    cases last with
    | none => cases named
    | some last =>
        obtain rfl : last.1 = name := Option.some.inj named
        obtain rfl : last.2 = module := isLast
        exact ⟨_, dotted, imports⟩
  · rintro ⟨names, dotted, imports⟩
    rw [dottedNames_eq_iff.mpr dotted]
    exact ⟨_, imports, rfl⟩

theorem importModule_eq_error_iff :
    modules.importModule name = .error failure ↔ modules.Withholds name failure := by
  rw [importModule, importBelow_eq_error_iff]
  constructor
  · rintro ⟨before, missing, after, last, split, imports, fails⟩
    exact ⟨before, missing, after, last, dottedNames_eq_iff.mp split, imports, fails⟩
  · rintro ⟨before, missing, after, last, dotted, imports, fails⟩
    exact ⟨before, missing, after, last, dottedNames_eq_iff.mpr dotted, imports, fails⟩

end Modules

namespace SchemaReference

/-- A reference consists of the name of a module and a path, with its first colon between them. -/
structure Splits (reference moduleName path : String) : Prop where
  joined : moduleName ++ ":" ++ path = reference
  undivided : ':' ∉ moduleName.toList
  named : moduleName ≠ ""
  absolute : moduleName.toList.head? ≠ some '.'
  followed : path ≠ ""

variable {modules : Modules} {reference moduleName path : String} {module : ModuleMember}
  {schema : Schema}

/-- What is left behind the characters before a separator starts with it, if anything is left. -/
theorem takeWhile_append_of_drop {separator c : Char} {text rest : List Char}
    (remaining : text.drop (text.takeWhile (· != separator)).length = c :: rest) :
    text.takeWhile (· != separator) ++ separator :: rest = text := by
  induction text with
  | nil => cases remaining
  | cons first text ih =>
      by_cases equal : first = separator
      · subst equal
        obtain ⟨_, rfl⟩ : c = first ∧ text = rest := by simpa [eq_comm] using remaining
        simp
      · have later : text.drop (text.takeWhile (· != separator)).length = c :: rest := by
          simpa [List.takeWhile_cons, equal] using remaining
        simpa [List.takeWhile_cons, equal] using ih later

theorem split?_eq_some_iff :
    split? reference = some (moduleName, path) ↔ Splits reference moduleName path := by
  constructor
  · intro split
    unfold split? at split
    dsimp only at split
    split at split
    case h_1 c rest remaining =>
        split at split
        case isTrue => cases split
        case isFalse given =>
            simp only [Bool.or_eq_true, decide_eq_true_eq, not_or, List.isEmpty_iff] at given
            obtain ⟨⟨named, followed⟩, absolute⟩ := given
            obtain ⟨rfl, rfl⟩ := Prod.mk.inj (Option.some.inj split)
            have joined := takeWhile_append_of_drop remaining
            refine ⟨?_, ?_, by simpa using named, by simpa using absolute, by simpa using followed⟩
            · apply String.toList_inj.mp
              simpa using joined
            · intro member
              have differs := List.mem_takeWhile_imp (String.toList_ofList ▸ member)
              exact absurd differs (by decide)
    case h_2 => cases split
  · rintro ⟨rfl, undivided, named, absolute, followed⟩
    have before : (moduleName ++ ":" ++ path).toList.takeWhile (· != ':') = moduleName.toList := by
      have plain : ∀ c ∈ moduleName.toList, (c != ':') = true := by
        intro c member
        simpa using fun equal : c = ':' => undivided (equal ▸ member)
      rw [String.toList_append, String.toList_append, List.append_assoc,
        List.takeWhile_append_of_pos plain]
      simp
    have remaining : (moduleName ++ ":" ++ path).toList.drop moduleName.toList.length =
        ':' :: path.toList := by
      simp
    unfold split?
    rw [before]
    dsimp only
    rw [remaining]
    simp [named, absolute, followed]

/-- A reference opens the module before its colon and goes on with the path after it. -/
def Opens (modules : Modules) (reference moduleName path : String) (module : ModuleMember) :
    Prop :=
  Splits reference moduleName path ∧ modules.Gives moduleName module

/-- A reference names a schema: the module is imported, and the names of the path lead from it to a
member that is the schema. -/
inductive Names (modules : Modules) (reference : String) : Schema → Prop
  | schema {moduleName path : String} {names : List String} {module member : ModuleMember}
      {schema : Schema} (opens : Opens modules reference moduleName path module)
      (dotted : IsDotted names path) (leads : module.Leads names member)
      (isSchema : member.schema? = some schema) : Names modules reference schema

/-- The first reason why a reference names no schema. -/
inductive Refuses (modules : Modules) (reference : String) : SchemaReferenceError → Prop
  | malformed (whole : ∀ moduleName path, ¬ Splits reference moduleName path) :
      Refuses modules reference (.malformed reference)
  | unavailable {moduleName path : String} {text : Text} {failure : ImportFailure}
      (splits : Splits reference moduleName path) (withholds : modules.Withholds moduleName failure)
      (shown : failure.text = .ok text) (kind : failure.unavailable = true) :
      Refuses modules reference (.unavailable moduleName text)
  | notImported {moduleName path : String} {text : Text} {failure : ImportFailure}
      (splits : Splits reference moduleName path) (withholds : modules.Withholds moduleName failure)
      (shown : failure.text = .ok text) (kind : failure.unavailable = false) :
      Refuses modules reference (.notImported moduleName failure.kind text)
  | noMember {moduleName path name : String} {before after : List String}
      {module owner : ModuleMember} (opens : Opens modules reference moduleName path module)
      (dotted : IsDotted (before ++ name :: after) path) (leads : module.Leads before owner)
      (missing : owner.member? name = .ok none) :
      Refuses modules reference (.noMember moduleName path)
  | notSchema {moduleName path : String} {names : List String} {module member : ModuleMember}
      (opens : Opens modules reference moduleName path module) (dotted : IsDotted names path)
      (leads : module.Leads names member) (other : member.schema? = none) :
      Refuses modules reference (.notSchema reference member.typeName)

/-- A failure of code of the modules that is not told as a refusal: an error of a module cannot be
shown, or an object on the way fails when it is asked for a member. -/
inductive Disturbs (modules : Modules) (reference : String) : Fault → Prop
  | unshown {moduleName path : String} {failure : ImportFailure} {fault : Fault}
      (splits : Splits reference moduleName path) (withholds : modules.Withholds moduleName failure)
      (hidden : failure.text = .error fault) : Disturbs modules reference fault
  | unanswered {moduleName path name : String} {before after : List String}
      {module owner : ModuleMember} {fault : Fault}
      (opens : Opens modules reference moduleName path module)
      (dotted : IsDotted (before ++ name :: after) path) (leads : module.Leads before owner)
      (fails : owner.member? name = .error fault) : Disturbs modules reference fault

/-- Looking for a schema only reports one that is found. -/
theorem outcome_resolve : (resolve modules reference).outcome = find modules reference := by
  rw [resolve, Logged.outcome_bind, Logged.outcome_ofExcept]
  cases find modules reference <;> rfl

theorem find_of_opens (opens : Opens modules reference moduleName path module) :
    find modules reference =
      match module.follow? (dottedNames path) with
      | .error fault => .error (.faulty fault)
      | .ok none => .error (.unresolved (.noMember moduleName path))
      | .ok (some member) =>
          match member.schema? with
          | some schema => .ok schema
          | none => .error (.unresolved (.notSchema reference member.typeName)) := by
  rw [find, split?_eq_some_iff.mpr opens.1]
  dsimp only
  rewrite [Modules.importModule_eq_ok_iff.mpr opens.2]
  rfl

theorem find_of_withholds {failure : ImportFailure} (splits : Splits reference moduleName path)
    (withholds : modules.Withholds moduleName failure) :
    find modules reference = .error (refuseImport moduleName failure) := by
  rw [find, split?_eq_some_iff.mpr splits]
  dsimp only
  rw [Modules.importModule_eq_error_iff.mpr withholds]

/-- A name that gives no member ends the way that a path is followed. -/
theorem follow?_of_stop {name : String} {before after : List String} {owner : ModuleMember}
    {stop : Except Fault (Option ModuleMember)} (stops : ∀ member, stop ≠ .ok (some member))
    (dotted : IsDotted (before ++ name :: after) path) (leads : module.Leads before owner)
    (asked : owner.member? name = stop) : module.follow? (dottedNames path) = stop := by
  rw [dottedNames_eq_iff.mpr dotted, ModuleMember.follow?_eq_iff_of_stop stops]
  exact ⟨before, name, after, owner, rfl, leads, asked⟩

theorem find_of_names (names : Names modules reference schema) :
    find modules reference = .ok schema := by
  cases names with
  | schema opens dotted leads isSchema =>
      rw [find_of_opens opens, dottedNames_eq_iff.mpr dotted,
        ModuleMember.follow?_eq_some_iff.mpr leads]
      dsimp only
      rw [isSchema]

theorem find_of_refuses {error : SchemaReferenceError} (refuses : Refuses modules reference error) :
    find modules reference = .error (.unresolved error) := by
  cases refuses with
  | malformed whole =>
      have unsplit : split? reference = none := by
        rw [Option.eq_none_iff_forall_ne_some]
        rintro ⟨moduleName, path⟩ split
        exact whole _ _ (split?_eq_some_iff.mp split)
      rw [find, unsplit]
  | unavailable splits withholds shown kind =>
      rw [find_of_withholds splits withholds, refuseImport, shown]
      simp [kind]
  | notImported splits withholds shown kind =>
      rw [find_of_withholds splits withholds, refuseImport, shown]
      simp [kind]
  | noMember opens dotted leads missing =>
      rw [find_of_opens opens, follow?_of_stop (by simp) dotted leads missing]
  | notSchema opens dotted leads other =>
      rw [find_of_opens opens, dottedNames_eq_iff.mpr dotted,
        ModuleMember.follow?_eq_some_iff.mpr leads]
      dsimp only
      rw [other]

theorem find_of_disturbs {fault : Fault} (disturbs : Disturbs modules reference fault) :
    find modules reference = .error (.faulty fault) := by
  cases disturbs with
  | unshown splits withholds hidden =>
      rw [find_of_withholds splits withholds, refuseImport, hidden]
  | unanswered opens dotted leads fails =>
      rw [find_of_opens opens, follow?_of_stop (by simp) dotted leads fails]

/-- A reference names a schema or is refused, unless something disturbs looking for it. -/
theorem names_or_refuses_or_disturbs (modules : Modules) (reference : String) :
    (∃ schema, Names modules reference schema) ∨ (∃ error, Refuses modules reference error) ∨
      ∃ fault, Disturbs modules reference fault := by
  cases split : split? reference with
  | none =>
      refine .inr (.inl ⟨_, .malformed fun moduleName path splits => ?_⟩)
      cases split.symm.trans (split?_eq_some_iff.mpr splits)
  | some parts =>
      have splits : Splits reference parts.1 parts.2 := split?_eq_some_iff.mp split
      cases imported : modules.importModule parts.1 with
      | error failure =>
          have withholds := Modules.importModule_eq_error_iff.mp imported
          cases text : failure.text with
          | error fault => exact .inr (.inr ⟨_, .unshown splits withholds text⟩)
          | ok text =>
              cases kind : failure.unavailable with
              | true => exact .inr (.inl ⟨_, .unavailable splits withholds ‹_› kind⟩)
              | false => exact .inr (.inl ⟨_, .notImported splits withholds ‹_› kind⟩)
      | ok module =>
          have opens : Opens modules reference parts.1 parts.2 module :=
            ⟨splits, Modules.importModule_eq_ok_iff.mp imported⟩
          have dotted : IsDotted (dottedNames parts.2) parts.2 := dottedNames_eq_iff.mp rfl
          rcases followed : module.follow? (dottedNames parts.2) with fault | _ | member
          · obtain ⟨before, name, after, owner, way, leads, fails⟩ :=
              (ModuleMember.follow?_eq_iff_of_stop (by simp)).mp followed
            rw [way] at dotted
            exact .inr (.inr ⟨_, .unanswered opens dotted leads fails⟩)
          · obtain ⟨before, name, after, owner, way, leads, missing⟩ :=
              (ModuleMember.follow?_eq_iff_of_stop (by simp)).mp followed
            rw [way] at dotted
            exact .inr (.inl ⟨_, .noMember opens dotted leads missing⟩)
          · have leads := ModuleMember.follow?_eq_some_iff.mp followed
            cases isSchema : member.schema? with
            | some schema => exact .inl ⟨_, .schema opens dotted leads isSchema⟩
            | none => exact .inr (.inl ⟨_, .notSchema opens dotted leads isSchema⟩)

/-- What is behind each outcome of looking for a schema. -/
inductive Accounts (modules : Modules) (reference : String) :
    Except SchemaReferenceFailure Schema → Prop
  | named {schema : Schema} (names : Names modules reference schema) :
      Accounts modules reference (.ok schema)
  | refused {error : SchemaReferenceError} (refuses : Refuses modules reference error) :
      Accounts modules reference (.error (.unresolved error))
  | disturbed {fault : Fault} (disturbs : Disturbs modules reference fault) :
      Accounts modules reference (.error (.faulty fault))

theorem accounts_find (modules : Modules) (reference : String) :
    Accounts modules reference (find modules reference) := by
  rcases names_or_refuses_or_disturbs modules reference with
    ⟨schema, names⟩ | ⟨error, refuses⟩ | ⟨fault, disturbs⟩
  · exact find_of_names names ▸ .named names
  · exact find_of_refuses refuses ▸ .refused refuses
  · exact find_of_disturbs disturbs ▸ .disturbed disturbs

theorem find_eq_ok_iff : find modules reference = .ok schema ↔ Names modules reference schema := by
  refine ⟨fun found => ?_, find_of_names⟩
  cases found ▸ accounts_find modules reference with
  | named names => exact names

theorem find_eq_unresolved_iff {error : SchemaReferenceError} :
    find modules reference = .error (.unresolved error) ↔ Refuses modules reference error := by
  refine ⟨fun found => ?_, find_of_refuses⟩
  cases found ▸ accounts_find modules reference with
  | refused refuses => exact refuses

theorem find_eq_faulty_iff {fault : Fault} :
    find modules reference = .error (.faulty fault) ↔ Disturbs modules reference fault := by
  refine ⟨fun found => ?_, find_of_disturbs⟩
  cases found ▸ accounts_find modules reference with
  | disturbed disturbs => exact disturbs

end SchemaReference

/-! ## Reliable modules -/

/-- A member that never fails when it is asked for another, and neither do those that it gives. -/
inductive ModuleMember.Reliable : ModuleMember → Prop
  | entity (entity : Entity) : Reliable (.entity entity)
  | namespaceOf {members : List (String × ModuleMember)}
      (contents : ∀ entry ∈ members, Reliable entry.2) : Reliable (.namespaceOf members)
  | method (owner : Schema) : Reliable (.method owner)
  | part (typeName : String) : Reliable (.part typeName)
  | foreign {typeName : String} {respond : String → Except Fault (Option ModuleMember)}
      {schema : Option Schema} (answers : ∀ name, ∃ found, respond name = .ok found)
      (contents : ∀ name member, respond name = .ok (some member) → Reliable member) :
      Reliable (.foreign typeName respond schema)

/-- A module that is imported as a reliable member, or one that fails with an error that can be
shown. -/
inductive ModuleBody.Reliable : ModuleBody → Prop
  | members {members : List (String × ModuleMember)}
      (contents : ∀ entry ∈ members, entry.2.Reliable)
      (noHandler : ModuleMember.handlerName ∉ members.map Prod.fst) : Reliable (.members members)
  | foreign {respond : String → Except Fault (Option ModuleMember)}
      (answers : ∀ name, ∃ found, respond name = .ok found)
      (contents : ∀ name member, respond name = .ok (some member) → member.Reliable) :
      Reliable (.foreign respond)
  | failing {failure : ImportFailure} {text : Text} (shown : failure.text = .ok text) :
      Reliable (.failing failure)

def Modules.Reliable (modules : Modules) : Prop := ∀ entry ∈ modules, entry.2.Reliable

theorem mem_of_lookup {α : Type} {entries : List (String × α)} {name : String} {content : α}
    (found : entries.reverse.lookup name = some content) : (name, content) ∈ entries := by
  obtain ⟨before, after, split, _⟩ := List.lookup_eq_some_iff.mp found
  rw [← List.mem_reverse, split]
  simp

namespace ModuleMember

variable {owner member target : ModuleMember} {name : String} {path : List String}

theorem reliable_of_ofSchema? {schema : Schema} (found : ofSchema? schema name = some member) :
    member.Reliable := by
  unfold ofSchema? at found
  split at found
  case h_1 | h_2 | h_3 =>
      obtain rfl := Option.some.inj found
      constructor
  case h_4 =>
      split at found
      · obtain rfl := Option.some.inj found
        constructor
      · split at found
        · obtain rfl := Option.some.inj found
          constructor
        · cases found

/-- A reliable member that is asked for another does not fail, and the other is reliable as well. -/
theorem Reliable.exists_member? (reliable : owner.Reliable) (name : String) :
    ∃ found, owner.member? name = .ok found ∧ ∀ member, found = some member → member.Reliable := by
  cases reliable with
  | entity entity =>
      cases entity with
      | ofSchema schema => exact ⟨_, rfl, fun member => reliable_of_ofSchema?⟩
      | ofValue value => exact ⟨_, rfl, by simp⟩
      | brokenParser =>
          refine ⟨_, rfl, fun member found => ?_⟩
          split at found
          · obtain rfl := Option.some.inj found
            constructor
          · cases found
  | namespaceOf contents =>
      exact ⟨_, rfl, fun member found => contents _ (mem_of_lookup found)⟩
  | method schema =>
      refine ⟨_, rfl, fun member found => ?_⟩
      split at found
      · obtain rfl := Option.some.inj found
        constructor
      · cases found
  | part typeName => exact ⟨_, rfl, by simp⟩
  | foreign answers contents =>
      obtain ⟨found, answered⟩ := answers name
      refine ⟨found, answered, fun member isMember => contents name member ?_⟩
      exact isMember ▸ answered

/-- Names lead from a reliable member to reliable members only. -/
theorem Reliable.of_leads (reliable : owner.Reliable) (leads : owner.Leads path target) :
    target.Reliable := by
  induction leads with
  | here => exact reliable
  | on has rest ih =>
      obtain ⟨found, answered, contents⟩ := reliable.exists_member? _
      cases has.symm.trans answered
      exact ih (contents _ rfl)

theorem Reliable.member?_ne_error (reliable : owner.Reliable) (fault : Fault) :
    owner.member? name ≠ .error fault := by
  obtain ⟨found, answered, _⟩ := reliable.exists_member? name
  rw [answered]
  nofun

end ModuleMember

namespace Modules

variable {modules : Modules} {name : String} {parent last : Option (String × ModuleMember)}

theorem Reliable.body? (reliable : modules.Reliable) {body : ModuleBody}
    (found : modules.body? name = some body) : body.Reliable :=
  reliable _ (mem_of_lookup found)

/-- A reliable module is imported as a reliable member. -/
theorem reliable_of_run {body : ModuleBody} (reliable : body.Reliable) {module : ModuleMember}
    (runs : body.run = .ok module) : module.Reliable := by
  cases reliable with
  | @members members contents noHandler =>
      have unhandled : members.reverse.lookup ModuleMember.handlerName = none := by
        rw [List.lookup_eq_none_iff]
        intro entry member
        rw [bne_iff_ne]
        rintro equal
        exact noHandler (List.mem_map.mpr ⟨entry, List.mem_reverse.mp member, equal.symm⟩)
      rw [ModuleBody.run, ModuleMember.ofModule, unhandled] at runs
      obtain rfl := Except.ok.inj runs
      exact .namespaceOf contents
  | foreign answers contents =>
      obtain rfl := Except.ok.inj runs
      exact .foreign answers contents
  | failing shown => cases runs

/-- Every module that is imported on the way is reliable. -/
theorem Reliable.of_imports (reliable : modules.Reliable) {names : List String}
    (imports : modules.Imports parent names last)
    (start : ∀ above, parent = some above → above.2.Reliable) :
    ∀ below, last = some below → below.2.Reliable := by
  induction imports with
  | here => exact start
  | next found runs rest ih =>
      refine ih fun above equal => ?_
      obtain rfl := Option.some.inj equal
      exact reliable_of_run (reliable.body? found) runs

/-- The error that there is no module in a reliable one can be shown. -/
theorem exists_text_notFound (modules : Modules) {parent : Option (String × ModuleMember)}
    (reliable : ∀ above, parent = some above → above.2.Reliable) (name : String) :
    ∃ text, (modules.notFound parent name).text = .ok text := by
  unfold notFound
  split
  · exact ⟨_, rfl⟩
  · dsimp only
    split
    · exact ⟨_, rfl⟩
    · split
      case h_3 fault failed => exact absurd failed ((reliable _ rfl).member?_ne_error fault)
      all_goals exact ⟨_, rfl⟩

/-- Errors of reliable modules can be shown. -/
theorem Reliable.exists_text (reliable : modules.Reliable) {failure : ImportFailure}
    (withholds : modules.Withholds name failure) : ∃ text, failure.text = .ok text := by
  obtain ⟨before, missing, after, last, _, imports, fails⟩ := withholds
  unfold importNext at fails
  split at fails
  case h_1 =>
      obtain rfl := Except.error.inj fails
      exact exists_text_notFound modules (reliable.of_imports imports (by simp)) _
  case h_2 body found =>
      cases reliable.body? found with
      | members | foreign => cases fails
      | failing shown =>
          obtain rfl := Except.error.inj fails
          exact ⟨_, shown⟩

end Modules

namespace SchemaReference

variable {modules : Modules}

/-- Reliable modules leave nothing that could disturb looking for a schema. -/
theorem not_disturbs_of_reliable (reliable : modules.Reliable) (reference : String)
    (fault : Fault) : ¬ Disturbs modules reference fault := by
  rintro (⟨_, withholds, hidden⟩ | ⟨⟨_, names, _, imports⟩, _, leads, fails⟩)
  · obtain ⟨text, shown⟩ := reliable.exists_text withholds
    cases hidden.symm.trans shown
  · have start := reliable.of_imports imports (by simp) _ rfl
    exact (start.of_leads leads).member?_ne_error fault fails

/-- A reference is resolved exactly if it names a schema, and it is refused for the first reason why
it names none.  Anything else that ends the search is a failure of code of the modules that cannot
be shown or that an object on the way responds with; reliable modules have no such code. -/
theorem resolve_fails_only_by_reference_error_iff (modules : Modules) (reference : String) :
    (∀ schema, (resolve modules reference).outcome = .ok schema ↔
        Names modules reference schema) ∧
      (∀ error, (resolve modules reference).outcome = .error (.unresolved error) ↔
        Refuses modules reference error) ∧
      ((∀ failure, (resolve modules reference).outcome = .error failure →
          ∃ error, failure = .unresolved error) ↔
        ∀ fault, ¬ Disturbs modules reference fault) ∧
      (modules.Reliable → ∀ fault, ¬ Disturbs modules reference fault) := by
  rw [outcome_resolve]
  refine ⟨fun schema => find_eq_ok_iff, fun error => find_eq_unresolved_iff, ?_,
    fun reliable => not_disturbs_of_reliable reliable reference⟩
  constructor
  · intro refused fault disturbs
    obtain ⟨error, equal⟩ := refused _ (find_eq_faulty_iff.mpr disturbs)
    cases equal
  · intro undisturbed failure failed
    cases failure with
    | unresolved error => exact ⟨error, rfl⟩
    | faulty fault => exact absurd (find_eq_faulty_iff.mp failed) (undisturbed fault)

/-- An element is found below a namespace of a module that is below another, and a module that fails
is told as a refusal. -/
theorem resolve_finds_element_below_namespace :
    let element : Schema := .text .required [.nonEmptyText]
    let clock : ModuleMember := .entity (.ofSchema (.array .optional element []))
    let panel : ModuleMember := .namespaceOf [("clock", clock)]
    let modules : Modules := [("pkg", .members []), ("pkg.sub", .members [("Panel", panel)]),
      ("bad", .failing ⟨"RuntimeError", false, .ok "boom"⟩)]
    modules.Reliable ∧ Names modules "pkg.sub:Panel.clock.element" element ∧
      (resolve modules "pkg.sub:Panel.clock.element").outcome = .ok element ∧
      ∀ failure, (resolve modules "bad:X").outcome = .error failure →
        ∃ error, failure = .unresolved error := by
  intro element clock panel modules
  have reliable : modules.Reliable := by
    intro entry member
    simp only [modules, List.mem_cons, List.not_mem_nil, or_false] at member
    rcases member with rfl | rfl | rfl
    · exact .members (by simp) (by simp)
    · refine .members ?_ (by simp [ModuleMember.handlerName])
      simp only [List.mem_singleton, forall_eq]
      exact .namespaceOf (by simpa using .entity _)
    · exact .failing rfl
  have names : Names modules "pkg.sub:Panel.clock.element" element := by
    have splits : Splits "pkg.sub:Panel.clock.element" "pkg.sub" "Panel.clock.element" :=
      ⟨by decide, by decide, by decide, by decide, by decide⟩
    have gives : modules.Gives "pkg.sub" (.namespaceOf [("Panel", panel)]) := by
      refine ⟨["pkg", "sub"], ⟨by simp, by decide, by decide⟩, ?_⟩
      exact .next (by rfl) (by rfl) (.next (by rfl) (by rfl) .here)
    have dotted : IsDotted ["Panel", "clock", "element"] "Panel.clock.element" :=
      ⟨by simp, by decide, by decide⟩
    exact .schema ⟨splits, gives⟩ dotted (.on rfl (.on rfl (.on rfl .here))) rfl
  obtain ⟨found, _⟩ :=
    resolve_fails_only_by_reference_error_iff modules "pkg.sub:Panel.clock.element"
  obtain ⟨_, _, refused, undisturbed⟩ := resolve_fails_only_by_reference_error_iff modules "bad:X"
  exact ⟨reliable, names, (found element).mpr names, refused.mpr (undisturbed reliable)⟩

/-- A module whose handler for unknown names cannot be called, and one that fails with an integer
too long to be written, end the search with faults of their own. -/
theorem resolve_of_failing_module_fails_otherwise :
    let members := [(ModuleMember.handlerName, ModuleMember.entity (.ofValue (.int 5)))]
    let handled : Modules := [("m", .members members)]
    let failing : Modules := [("m", .failing ⟨"ValueError", false, .error .integerTooLong⟩)]
    (resolve handled "m:nope").outcome = .error (.faulty (.notCallable "int")) ∧
      (resolve failing "m:nope").outcome = .error (.faulty .integerTooLong) := by
  intro members handled failing
  have splits : Splits "m:nope" "m" "nope" :=
    ⟨by decide, by decide, by decide, by decide, by decide⟩
  have dotted : IsDotted ["m"] "m" := ⟨by simp, by decide, by decide⟩
  have path : IsDotted ([] ++ "nope" :: []) "nope" := ⟨by simp, by decide, by decide⟩
  have imports : handled.Imports none ["m"] (some ("m", .ofModule members)) :=
    .next (by rfl) (by rfl) .here
  have unanswered : Disturbs handled "m:nope" (.notCallable "int") :=
    .unanswered ⟨splits, _, dotted, imports⟩ path .here (by rfl)
  have unshown : Disturbs failing "m:nope" .integerTooLong :=
    .unshown splits ⟨[], "m", [], none, dotted, .here, by rfl⟩ rfl
  rw [outcome_resolve, outcome_resolve]
  exact ⟨find_of_disturbs unanswered, find_of_disturbs unshown⟩

end SchemaReference

end ClosedShape
