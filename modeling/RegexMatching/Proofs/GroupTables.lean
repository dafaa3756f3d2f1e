import RegexMatching.Proofs.Compiling
import RegexMatching.Proofs.GroupCounts
import RegexMatching.Proofs.GroupNumbers
import RegexMatching.Proofs.LinearEnclosing
import RegexMatching.Proofs.TemplateGrammar

/-!
# Names of groups

Two syntaxes of patterns name groups.  Both build names from letters, digits and underscores, and
only the linear-time syntax lets a digit come first.  A compiled pattern keeps the names of its
backend, each with the number of one of its groups.
-/

namespace RegexMatching

/-! ## Names of a table -/

namespace GroupNames

theorem group?_append_single (names : GroupNames) (entry : GroupName) (name : Text) :
    group? (names ++ [entry]) name =
      (names.group? name).or (if entry.name == name then some entry.group else none) := by
  rw [group?, group?, List.find?_append, List.find?_singleton]
  cases names.find? fun entry => entry.name == name with
  | some found => rfl
  | none => cases entry.name == name <;> rfl

/-- Every entry is found by its name. -/
def Distinguishes (names : GroupNames) : Prop :=
  ∀ entry ∈ names, names.group? entry.name = some entry.group

theorem Distinguishes.insertIfNew {names : GroupNames} (distinguishes : names.Distinguishes)
    (entry : GroupName) : (names.insertIfNew entry).Distinguishes := by
  unfold GroupNames.insertIfNew
  split
  · exact distinguishes
  · next isNew =>
      intro other mem
      rw [group?_append_single]
      rcases List.mem_append.mp mem with mem | mem
      · rw [distinguishes other mem]
        rfl
      · obtain rfl := List.mem_singleton.mp mem
        rw [Option.not_isSome_iff_eq_none.mp isNew, Option.none_or, beq_self_eq_true]
        rfl

theorem mem_of_mem_insertIfNew {names : GroupNames} {entry other : GroupName}
    (mem : other ∈ names.insertIfNew entry) : other ∈ names ∨ other = entry := by
  unfold insertIfNew at mem
  split at mem
  · exact .inl mem
  · simpa using mem

/-- The names of a table are from the table, and each has one group. -/
theorem distinguishes_ofTable (table : List GroupName) :
    (ofTable table).Distinguishes ∧ ∀ entry ∈ ofTable table, entry ∈ table := by
  suffices all : ∀ names : GroupNames, names.Distinguishes →
      (table.foldl insertIfNew names).Distinguishes ∧
        ∀ entry ∈ table.foldl insertIfNew names, entry ∈ names ∨ entry ∈ table by
    obtain ⟨distinguishes, among⟩ := all [] (List.forall_mem_nil _)
    exact ⟨distinguishes, fun entry mem => (among entry mem).resolve_left List.not_mem_nil⟩
  induction table with
  | nil => exact fun names distinguishes => ⟨distinguishes, fun entry mem => .inl mem⟩
  | cons first rest ih =>
      intro names distinguishes
      obtain ⟨distinguishes', among⟩ := ih _ (distinguishes.insertIfNew first)
      refine ⟨distinguishes', fun entry mem => ?_⟩
      rcases among entry mem with mem | mem
      · rcases mem_of_mem_insertIfNew mem with mem | rfl
        · exact .inl mem
        · exact .inr List.mem_cons_self
      · exact .inr (List.mem_cons_of_mem _ mem)

end GroupNames

/-- Text of letters, digits and underscores, of which there is one at least. -/
structure Text.IsWord (text : Text) : Prop where
  isNonempty : text ≠ []
  areUnits : ∀ unit ∈ text, isNameUnit unit = true

/-- What holds of a named group of a pattern with so many groups. -/
structure GroupName.Fits (entry : GroupName) (count : Nat) : Prop where
  isWord : entry.name.IsWord
  positive : 0 < entry.group
  le_count : entry.group ≤ count

theorem Text.IsWord.of_isName {text : Text} (isName : text.isName = true) : text.IsWord := by
  cases text with
  | nil => contradiction
  | cons first rest =>
      obtain ⟨isStart, areUnits⟩ := Bool.and_eq_true_iff.mp isName
      refine ⟨List.cons_ne_nil _ _, List.forall_mem_cons.mpr ⟨?_, List.all_eq_true.mp areUnits⟩⟩
      rw [isNameUnit, isStart, Bool.true_or]

/-- A word is a name unless a digit comes first. -/
theorem Text.IsWord.isName_iff {text : Text} (isWord : text.IsWord) :
    text.isName = true ↔ text.head?.any CodeUnit.isDigit = false := by
  cases text with
  | nil => exact absurd rfl isWord.isNonempty
  | cons first rest =>
      have ofFirst := isWord.areUnits first List.mem_cons_self
      have ofRest : rest.all isNameUnit = true :=
        List.all_eq_true.mpr fun unit mem => isWord.areUnits unit (List.mem_cons_of_mem _ mem)
      rw [isName, ofRest, Bool.and_true]
      change _ ↔ first.isDigit = false
      constructor
      · exact Template.isDigit_of_isNameStart
      · intro notDigit
        rw [isNameUnit, notDigit, Bool.or_false] at ofFirst
        exact ofFirst

/-! ## Names that the linear-time syntax admits -/

namespace Linear

open PointReader

/-- Whether a list of code points is a name of a group. -/
def IsGroupName (name : List Nat) : Prop :=
  name ≠ [] ∧ ∀ point ∈ name, isNamePoint point = true

/-- If a token opens a named group, the syntax admits the name. -/
def Token.HasGoodName (token : Token) : Prop :=
  ∀ name, token = .opening (.capture (some name)) → IsGroupName name

/-- Whether a token opens a named group. -/
def Token.isNamed : Token → Bool
  | .opening (.capture (some _)) => true
  | _ => false

theorem Token.hasGoodName_of_unnamed {token : Token} (unnamed : token.isNamed = false) :
    token.HasGoodName := by
  rintro name rfl
  contradiction

/-- All tokens that a reader gives have good names. -/
def GivesGoodNames (reader : Reader (List Token)) : Prop :=
  ∀ first after, reader = some (first, after) → ∀ token ∈ first, token.HasGoodName

theorem GivesGoodNames.single {token : Token} {after : List Nat} (isGood : token.HasGoodName) :
    GivesGoodNames (some ([token], after)) := by
  intro first behind isRead other mem
  cases isRead
  exact List.mem_singleton.mp mem ▸ isGood

theorem GivesGoodNames.unnamed {token : Token} {after : List Nat}
    (unnamed : token.isNamed = false) : GivesGoodNames (some ([token], after)) :=
  .single (Token.hasGoodName_of_unnamed unnamed)

theorem GivesGoodNames.none : GivesGoodNames none := by
  intro first after isRead
  contradiction

theorem GivesGoodNames.map {α : Type} (token : α → Token)
    (unnamed : ∀ value, (token value).isNamed = false) (reader : Reader α) :
    GivesGoodNames (reader.map fun (value, after) => ([token value], after)) := by
  cases reader with
  | none => exact .none
  | some read => exact .unnamed (unnamed read.1)

theorem givesGoodNames_readName (rest : List Nat) : GivesGoodNames (readName rest) := by
  unfold readName
  dsimp only
  split
  · exact .none
  · next isAdmitted =>
      refine .single fun name same => ?_
      cases same
      simp only [Bool.not_eq_true, Bool.or_eq_false_iff, Bool.not_eq_false',
        List.isEmpty_eq_false_iff, List.all_eq_true] at isAdmitted
      exact ⟨isAdmitted.1.1, isAdmitted.2⟩

theorem givesGoodNames_readFlags (change : FlagChange) (value isLetterDue : Bool)
    (rest : List Nat) : GivesGoodNames (readFlags change value isLetterDue rest) := by
  induction rest generalizing change value isLetterDue with
  | nil => exact .none
  | cons point rest ih =>
      rw [readFlags]
      split
      · split
        · exact ih _ _ _
        · exact .none
      · split
        · exact .none
        · exact .unnamed rfl
      · split
        · exact .none
        · exact .unnamed rfl
      · split
        · exact ih _ _ _
        · exact .none

theorem givesGoodNames_readOpening (rest : List Nat) : GivesGoodNames (readOpening rest) := by
  rw [readOpening]
  split
  · exact givesGoodNames_readName _
  · exact givesGoodNames_readName _
  · exact givesGoodNames_readFlags _ _ _ _
  · exact .unnamed rfl

theorem givesGoodNames_readMark (count : Count) (rest : List Nat) :
    GivesGoodNames (readMark count rest) := by
  rw [readMark]
  split <;> exact .unnamed rfl

theorem givesGoodNames_readCounted (rest : List Nat) : GivesGoodNames (readCounted rest) := by
  rw [readCounted]
  split
  · exact .unnamed rfl
  · split
    · exact givesGoodNames_readMark _ _
    · exact .none

theorem givesGoodNames_readEscapeTokens (rest : List Nat) :
    GivesGoodNames (readEscapeTokens rest) := by
  rw [readEscapeTokens]
  split
  case h_5 =>
    intro first after isRead token mem
    cases isRead
    generalize (splitQuoted (rest.drop 1)).1 = quoted at mem
    cases quoted with
    | nil =>
        obtain rfl := List.mem_singleton.mp mem
        exact Token.hasGoodName_of_unnamed rfl
    | cons point points =>
        obtain ⟨point, -, rfl⟩ := List.mem_map.mp mem
        exact Token.hasGoodName_of_unnamed rfl
  case h_6 =>
    split
    · exact .map (fun item => .set false [item]) (fun _ => rfl) _
    · exact .map .ofPoint (fun _ => rfl) _
  all_goals exact .unnamed rfl

theorem givesGoodNames_readTokens (point : Nat) (rest : List Nat) :
    GivesGoodNames (readTokens point rest) := by
  rw [readTokens]
  split
  case h_1 => exact givesGoodNames_readEscapeTokens rest
  case h_2 => exact .map (.set (startsWith '^' rest)) (fun _ => rfl) _
  case h_3 => exact givesGoodNames_readOpening rest
  case h_9 | h_10 | h_11 => exact givesGoodNames_readMark _ rest
  case h_12 => exact givesGoodNames_readCounted rest
  all_goals exact .unnamed rfl

/-- The names among the tokens of a pattern are admitted. -/
theorem hasGoodName_of_tokens {pattern : List Nat} {read : List Token}
    (areTokens : tokens pattern = some read) : ∀ token ∈ read, token.HasGoodName := by
  fun_induction tokens pattern generalizing read with
  | case1 =>
      cases areTokens
      exact List.forall_mem_nil _
  | case2 => contradiction
  | case3 point rest first after isRead _ ih =>
      obtain ⟨others, areOthers, rfl⟩ := Option.map_eq_some_iff.mp areTokens
      intro token mem
      rcases List.mem_append.mp mem with mem | mem
      · exact givesGoodNames_readTokens point rest first after isRead token mem
      · exact ih areOthers token mem

namespace Assembly

/-- The names are admitted, and their numbers are among those of the groups. -/
def NamesGroups (assembly : Assembly) : Prop :=
  ∀ entry ∈ assembly.names,
    IsGroupName entry.1 ∧ 0 < entry.2 ∧ entry.2 ≤ assembly.captureCount

/-- A token opens one capturing group or none. -/
theorem names_of_step {assembly next : Assembly} {token : Token}
    (stepped : assembly.step token = some next) :
    next.names = assembly.names ∧ next.captureCount = assembly.captureCount ∨
      ∃ name?, token = .opening (.capture name?) ∧
        next.captureCount = assembly.captureCount + 1 ∧
        next.names = assembly.names ++
          (name?.map fun name => (name, assembly.captureCount + 1)).toList := by
  cases token with
  | opening kind =>
      cases kind with
      | capture name? =>
          obtain rfl := openCapture_eq_some stepped
          exact .inr ⟨name?, rfl, rfl, rfl⟩
      | plain change =>
          cases stepped
          exact .inl ⟨rfl, rfl⟩
  | closing =>
      obtain ⟨_, _, -, rfl⟩ := exists_of_closeLevel stepped
      exact .inl ⟨rfl, rfl⟩
  | quantifier count isMarked =>
      obtain ⟨_, _, -, rfl⟩ := exists_of_quantify stepped
      exact .inl ⟨rfl, rfl⟩
  | _ =>
      cases stepped
      exact .inl ⟨rfl, rfl⟩

theorem NamesGroups.step {assembly next : Assembly} (names : assembly.NamesGroups) {token : Token}
    (isGood : token.HasGoodName) (stepped : assembly.step token = some next) :
    next.NamesGroups := by
  rcases names_of_step stepped with ⟨names_eq, count_eq⟩ | ⟨name?, isOpening, count_eq, names_eq⟩
  · unfold NamesGroups
    rw [names_eq, count_eq]
    exact names
  · intro entry mem
    rw [names_eq, List.mem_append] at mem
    rw [count_eq]
    rcases mem with mem | mem
    · obtain ⟨isName, positive, le_count⟩ := names entry mem
      exact ⟨isName, positive, Nat.le_succ_of_le le_count⟩
    · obtain ⟨name, isSome, rfl⟩ := Option.map_eq_some_iff.mp (Option.mem_toList.mp mem)
      subst isSome
      exact ⟨isGood name isOpening, Nat.succ_pos _, Nat.le_refl _⟩

theorem NamesGroups.steps {assembly final : Assembly} (names : assembly.NamesGroups)
    {read : List Token} (areGood : ∀ token ∈ read, token.HasGoodName)
    (stepped : assembly.steps read = some final) : final.NamesGroups := by
  induction read generalizing assembly with
  | nil =>
      cases stepped
      exact names
  | cons token rest ih =>
      obtain ⟨isGood, areGood'⟩ := List.forall_mem_cons.mp areGood
      rw [Assembly.steps] at stepped
      split at stepped
      · next next once => exact ih (names.step isGood once) areGood' stepped
      · contradiction

end Assembly

/-- The names of an expression that has been read. -/
theorem Regex.names_of_read {pattern : List Nat} {flags : Flags} {regex : Regex}
    (isRead : ofPoints? pattern flags = some regex) :
    ∀ entry ∈ regex.names, IsGroupName entry.1 ∧ 0 < entry.2 ∧ entry.2 ≤ regex.captureCount := by
  rw [ofPoints?] at isRead
  split at isRead
  · contradiction
  · next read areTokens =>
      split at isRead
      · next stepped =>
          cases isRead
          have none : (Assembly.start flags).NamesGroups := List.forall_mem_nil _
          exact none.steps (hasGoodName_of_tokens areTokens) stepped
      · contradiction

/-- Names are words in code units as well. -/
theorem isWord_ofPoints {name : List Nat} (isName : IsGroupName name) :
    (Text.ofPoints name).IsWord := by
  obtain ⟨isNonempty, arePoints⟩ := isName
  have small : ∀ point, isNamePoint point = true → point < 0x80 := by
    intro point isPoint
    simp only [isNamePoint, inRanges, wordRanges, List.any_cons, List.any_nil, Bool.or_false,
      Bool.or_eq_true, Bool.and_eq_true, decide_eq_true_eq] at isPoint
    omega
  have ascii : ∀ point < 0x80, isNamePoint point = true →
      CodePoint.units point ≠ [] ∧ ∀ unit ∈ CodePoint.units point, Text.isNameUnit unit = true := by
    decide +kernel
  constructor
  · obtain ⟨first, others, rfl⟩ := List.exists_cons_of_ne_nil isNonempty
    have isPoint := arePoints first List.mem_cons_self
    exact List.append_ne_nil_of_left_ne_nil (ascii first (small first isPoint) isPoint).1 _
  · intro unit mem
    obtain ⟨point, mem, isUnit⟩ := List.mem_flatMap.mp mem
    have isPoint := arePoints point mem
    exact (ascii point (small point isPoint) isPoint).2 unit isUnit

end Linear

/-! ## Names that lowering admits -/

namespace Lowering

theorem isName_of_traces {pieces : List Piece} {groups : List (Option Text)}
    (traces : Traces pieces groups) {name : Text} (mem : some name ∈ groups) :
    name.isName = true := by
  induction traces with
  | nil => contradiction
  | @cons piece first pieces groups opens rest ih =>
      rcases List.mem_append.mp mem with mem | mem
      · cases piece with
        | anchor place =>
            obtain rfl := opens
            contradiction
        | source source =>
            cases opens with
            | nothing => contradiction
            | group => cases List.mem_singleton.mp mem
            | named isName =>
                cases List.mem_singleton.mp mem
                exact isName
      · exact ih mem

/-- Names of groups of a pattern with so many groups: no two are the same, each is an identifier, and
they come in the order of the groups. -/
structure IsNameTable (names : GroupNames) (count : Nat) : Prop where
  distinct : (names.map GroupName.name).Nodup
  areNames : ∀ entry ∈ names, entry.name.isName = true
  ascending : (names.map GroupName.group).Pairwise (· < ·)
  positive : ∀ entry ∈ names, 1 ≤ entry.group
  le_count : ∀ entry ∈ names, entry.group ≤ count

/-- The names of the groups opened so far are a table for them. -/
def Progress.IsOrderly (progress : Progress) : Prop :=
  IsNameTable progress.names progress.captureCount

namespace Progress.IsOrderly

theorem start : IsOrderly {} :=
  ⟨.nil, nofun, .nil, nofun, nofun⟩

/-- One more group leaves the table as it is, or adds a name behind all others. -/
theorem opening {progress : Progress} (isOrderly : progress.IsOrderly) {name? : Option Text}
    (isFree : ∀ name ∈ name?, progress.hasName name = false)
    (isName : ∀ name ∈ name?, name.isName = true) : (progress.opening name?).IsOrderly := by
  cases name? with
  | none =>
      exact { isOrderly with
        le_count := fun entry mem => Nat.le_succ_of_le (isOrderly.le_count entry mem) }
  | some name =>
      have isOther : ∀ entry ∈ progress.names, entry.name ≠ name := by
        simpa [hasName] using isFree name rfl
      have all : ∀ {good : GroupName → Prop}, (∀ entry ∈ progress.names, good entry) →
          good ⟨name, progress.captureCount + 1⟩ →
          ∀ entry ∈ (progress.captureNamed name).names, good entry := by
        intro good areGood isGood
        exact List.forall_mem_append.mpr ⟨areGood, List.forall_mem_singleton.mpr isGood⟩
      constructor
      · simpa [Progress.opening, captureNamed, List.nodup_append] using
          ⟨isOrderly.distinct, isOther⟩
      · exact all isOrderly.areNames (isName name rfl)
      · simpa [Progress.opening, captureNamed, List.pairwise_append] using
          ⟨isOrderly.ascending, isOrderly.le_count⟩
      · exact all isOrderly.positive (Nat.succ_pos _)
      · exact all (fun entry mem => Nat.le_succ_of_le (isOrderly.le_count entry mem)) (Nat.le_refl _)

/-- Any groups leave a table for the groups that have been opened. -/
theorem opens {progress next : Progress} {groups : List (Option Text)}
    (isOrderly : progress.IsOrderly) (opens : progress.Opens groups next)
    (areNames : ∀ name, some name ∈ groups → name.isName = true) : next.IsOrderly := by
  induction opens with
  | nil => exact isOrderly
  | cons isFree _ ih =>
      apply ih (isOrderly.opening isFree _)
      · exact fun name mem => areNames name (List.mem_cons_of_mem _ mem)
      · rintro name rfl
        exact areNames name List.mem_cons_self

end Progress.IsOrderly

/-- The names of a lowered pattern are a table for its groups. -/
theorem isNameTable_of_lower {options : Options} {pattern : Text} {lowered : Lowered}
    (isLowered : lower options pattern = .ok lowered) :
    IsNameTable lowered.names lowered.captureCount := by
  obtain ⟨groups, traces, opens⟩ := exists_traces_of_lower isLowered
  exact Progress.IsOrderly.start.opens opens fun _ => isName_of_traces traces

end Lowering

/-! ## Names of compiled patterns -/

/-- The names that a backend reports are those of its groups, and a backtracking one reports none
that begins with a digit. -/
theorem EngineKind.names_fit {kind : EngineKind} {bytes : Bytes} {options : CompileOptions}
    {code : kind.Code} (compiled : kind.backend.compile bytes options = .ok code) :
    ∀ entry ∈ kind.backend.names code, entry.Fits (kind.backend.captureCount code) ∧
      (kind = .backtracking → entry.name.isName = true) := by
  cases kind with
  | backtracking =>
      simp only [backend, Backtracking.backend, Backtracking.compile] at compiled
      split at compiled
      · contradiction
      · next lowered isLowered =>
          split at compiled
          · cases compiled
            intro entry mem
            have isNameTable := Lowering.isNameTable_of_lower isLowered
            have isName := isNameTable.areNames entry mem
            exact ⟨⟨.of_isName isName, isNameTable.positive entry mem,
              isNameTable.le_count entry mem⟩, fun _ => isName⟩
          · contradiction
  | linear =>
      simp only [backend, LinearTime.backend, LinearTime.compile] at compiled
      split at compiled
      · contradiction
      · split at compiled
        · contradiction
        · next regex isRead =>
            cases compiled
            intro entry mem
            obtain ⟨⟨name, group⟩, isNamed, rfl⟩ := List.mem_map.mp mem
            obtain ⟨isName, positive, le_count⟩ := Linear.Regex.names_of_read isRead _ isNamed
            exact ⟨⟨Linear.isWord_ofPoints isName, positive, le_count⟩, fun same => by
              contradiction⟩

theorem Pattern.names_of_compile {kind : EngineKind} {isLogged : Bool} {source : Text}
    {flags : Number} {settings : PatternSettings} {trace after : Trace EngineState}
    {pattern : Pattern EngineState}
    (compiled : (compile kind.engine isLogged source flags settings).run trace =
      (.ok pattern, after)) {entry : GroupName} (mem : entry ∈ pattern.names) :
    pattern.names.group? entry.name = some entry.group ∧ entry.Fits pattern.groupCount ∧
      (kind = .backtracking → entry.name.isName = true) := by
  obtain ⟨parsed, plain, -, isPlain, isCompiled, names_eq⟩ := exists_plain_of_compile compiled
  obtain ⟨distinguishes, among⟩ := GroupNames.distinguishes_ofTable (kind.backend.names plain)
  rw [isCompiled.groupCount]
  rw [names_eq] at mem ⊢
  exact ⟨distinguishes entry mem, EngineKind.names_fit isPlain entry (among entry mem)⟩

end RegexMatching
