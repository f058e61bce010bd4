import ScanSetup.Options.Table
import ScanSetup.Proofs.Options.Names
import ScanSetup.Proofs.Text.Split
import ScanSetup.Proofs.Token.Steps

set_option autoImplicit false

namespace ScanSetup

open Text Options

variable {Meaning : Type} {schema : Schema Meaning}

/-- What a token stands for: an option with its value, or a path. -/
inductive Item (Meaning : Type)
  | option (spec : Spec Meaning) (value : String)
  | path (value : String)

/-- What a token stands for, whatever the text that named its option. -/
def Token.item : Token Meaning → Item Meaning
  | .option spec value _ => .option spec value
  | .path value => .path value

def Tokens.items (tokens : Tokens Meaning) : List (Item Meaning) := tokens.list.map Token.item

theorem Tokens.items_after (front : List (Token Meaning)) (tokens : Tokens Meaning) :
    (tokens.after front).items = front.map Token.item ++ tokens.items :=
  List.map_append

theorem Tokens.items_paths (paths : List String) (error? : Option UsageError) :
    (⟨paths.map .path, error?⟩ : Tokens Meaning).items = paths.map .path :=
  List.map_map

/-- A cluster of short options writes items: flags, and at its end perhaps an option with its value
attached, or one that is left open because its value is still to come. -/
inductive Cluster (schema : Schema Meaning) :
    List Char → List (Item Meaning) → Option (Spec Meaning) → Prop
  | done : Cluster schema [] [] none
  | flag {spec : Spec Meaning} {name : Char} {names : List Char} {items : List (Item Meaning)}
      {open? : Option (Spec Meaning)} (member : spec ∈ schema.specs)
      (called : spec.short? = some (String.singleton name)) (bare : spec.takesValue = false)
      (rest : Cluster schema names items open?) :
      Cluster schema (name :: names) (.option spec "" :: items) open?
  | attached {spec : Spec Meaning} {name : Char} (value : String) (member : spec ∈ schema.specs)
      (called : spec.short? = some (String.singleton name)) (valued : spec.takesValue = true)
      (nonempty : value ≠ "") :
      Cluster schema (name :: value.toList) [.option spec value] none
  | waiting {spec : Spec Meaning} {name : Char} (member : spec ∈ schema.specs)
      (called : spec.short? = some (String.singleton name)) (valued : spec.takesValue = true) :
      Cluster schema [name] [] (some spec)

/-- One argument writes items, and may leave an option open whose value is the next argument. -/
inductive Argument (schema : Schema Meaning) :
    String → List (Item Meaning) → Option (Spec Meaning) → Prop
  | path (value : String) (bare : value = "-" ∨ value.toList.head? ≠ some '-') :
      Argument schema value [.path value] none
  | flag {spec : Spec Meaning} (member : spec ∈ schema.specs) (bare : spec.takesValue = false) :
      Argument schema ("--" ++ spec.long) [.option spec ""] none
  | assigned {spec : Spec Meaning} (value : String) (member : spec ∈ schema.specs)
      (valued : spec.takesValue = true) :
      Argument schema ("--" ++ spec.long ++ "=" ++ value) [.option spec value] none
  | waiting {spec : Spec Meaning} (member : spec ∈ schema.specs)
      (valued : spec.takesValue = true) :
      Argument schema ("--" ++ spec.long) [] (some spec)
  | cluster {names : List Char} {items : List (Item Meaning)} {open? : Option (Spec Meaning)}
      (nonempty : names ≠ []) (shorts : Cluster schema names items open?) :
      Argument schema ("-" ++ String.ofList names) items open?

/-- A command line writes items. Behind the argument that ends the options everything is a path. -/
inductive Writing (schema : Schema Meaning) : List String → List (Item Meaning) → Prop
  | nil : Writing schema [] []
  | complete {argument : String} {arguments : List String} {items others : List (Item Meaning)}
      (first : Argument schema argument items none) (rest : Writing schema arguments others) :
      Writing schema (argument :: arguments) (items ++ others)
  | waiting {argument value : String} {arguments : List String} {spec : Spec Meaning}
      {items others : List (Item Meaning)} (first : Argument schema argument items (some spec))
      (rest : Writing schema arguments others) :
      Writing schema (argument :: value :: arguments) (items ++ .option spec value :: others)
  | ended (tail : List String) : Writing schema (endOfOptions :: tail) (tail.map .path)

def Shape.Spells (argument : String) : Shape → Prop
  | .path => argument = "-" ∨ argument.toList.head? ≠ some '-'
  | .long name none => argument = "--" ++ name
  | .long name (some value) => argument = "--" ++ name ++ "=" ++ value
  | .cluster names => names ≠ [] ∧ argument = "-" ++ String.ofList names

theorem Shape.of_spells (argument : String) : (Shape.of argument).Spells argument := by
  unfold Shape.of
  split
  · rename_i rest dashes
    have joined := join_cut '=' rest
    have whole : argument = "--" ++ String.ofList rest := by
      rw [← String.toList_inj]
      simpa using dashes
    cases parts : cut '=' rest with
    | mk name value? =>
      rw [parts] at joined
      rw [whole, ← joined]
      cases value? with
      | none => simp [Spells]
      | some value =>
        have assigned : String.ofList ('=' :: value) = "=" ++ String.ofList value := by
          rw [← String.toList_inj]
          simp
        simp [Spells, String.ofList_append, String.append_assoc, assigned]
  · rename_i dash
    refine Or.inl ?_
    rw [← String.toList_inj]
    exact dash
  · rename_i names other dash
    refine ⟨?_, ?_⟩
    · rintro rfl
      exact other rfl
    · rw [← String.toList_inj]
      simpa using dash
  · rename_i dashless
    refine Or.inr ?_
    intro starts
    obtain ⟨rest, spelled⟩ := List.head?_eq_some_iff.mp starts
    exact dashless rest spelled

theorem Shape.of_long {name : String} (plain : '=' ∉ name.toList) :
    Shape.of ("--" ++ name) = .long name none := by
  simp [Shape.of, cut_of_not_mem plain]

theorem Shape.of_assigned {name : String} (plain : '=' ∉ name.toList) (value : String) :
    Shape.of ("--" ++ name ++ "=" ++ value) = .long name (some value) := by
  have spelled : ("--" ++ name ++ "=" ++ value).toList =
      '-' :: '-' :: (name.toList ++ '=' :: value.toList) := by simp
  simp [Shape.of, spelled, cut_append plain]

theorem Shape.of_cluster {name : Char} (short : name ≠ '-') (names : List Char) :
    Shape.of ("-" ++ String.ofList (name :: names)) = .cluster (name :: names) := by
  have spelled : ("-" ++ String.ofList (name :: names)).toList = '-' :: name :: names := by simp
  unfold Shape.of
  rw [spelled]
  split
  · rename_i same
    cases same
    exact absurd rfl short
  · rename_i same
    cases same
  · rename_i same
    cases same
    rfl
  · rename_i other
    exact absurd rfl (other _)

theorem Shape.of_path {argument : String}
    (bare : argument = "-" ∨ argument.toList.head? ≠ some '-') : Shape.of argument = .path := by
  rcases bare with rfl | dashless
  · rfl
  · unfold Shape.of
    split
    · rename_i spelled
      simp [spelled] at dashless
    · rfl
    · rename_i spelled
      simp [spelled] at dashless
    · rfl

/-- What a scan has found: items, and an option that is left open. -/
def Scan.Yields (items : List (Item Meaning)) (open? : Option (Spec Meaning)) :
    Scan Meaning → Prop
  | .complete tokens => tokens.map Token.item = items ∧ open? = none
  | .waiting tokens spec _ => tokens.map Token.item = items ∧ open? = some spec
  | .failed _ _ => False

theorem Scan.yields_after {front : List (Token Meaning)} {scanned : Scan Meaning}
    {items : List (Item Meaning)} {open? : Option (Spec Meaning)} :
    (scanned.after front).Yields items open? ↔
      ∃ others, items = front.map Token.item ++ others ∧ scanned.Yields others open? := by
  cases scanned with
  | complete tokens =>
    simp only [Scan.after, Scan.Yields, List.map_append]
    constructor
    · rintro ⟨rfl, ended⟩
      exact ⟨_, rfl, rfl, ended⟩
    · rintro ⟨_, rfl, rfl, ended⟩
      exact ⟨rfl, ended⟩
  | waiting tokens spec written =>
    simp only [Scan.after, Scan.Yields, List.map_append]
    constructor
    · rintro ⟨rfl, ended⟩
      exact ⟨_, rfl, rfl, ended⟩
    · rintro ⟨_, rfl, rfl, ended⟩
      exact ⟨rfl, ended⟩
  | failed tokens error => simp [Scan.after, Scan.Yields]

theorem Scan.yields_none {scanned : Scan Meaning} {items : List (Item Meaning)} :
    scanned.Yields items none ↔
      ∃ tokens, scanned = .complete tokens ∧ tokens.map Token.item = items := by
  cases scanned <;> simp [Scan.Yields]

theorem Scan.yields_some {scanned : Scan Meaning} {items : List (Item Meaning)}
    {spec : Spec Meaning} :
    scanned.Yields items (some spec) ↔
      ∃ tokens written, scanned = .waiting tokens spec written ∧ tokens.map Token.item = items := by
  cases scanned with
  | waiting tokens other written =>
    simp only [Scan.Yields, Option.some.injEq, Scan.waiting.injEq]
    constructor
    · rintro ⟨same, rfl⟩
      exact ⟨tokens, written, ⟨rfl, rfl, rfl⟩, same⟩
    · rintro ⟨_, _, ⟨rfl, rfl, rfl⟩, same⟩
      exact ⟨same, rfl⟩
  | complete tokens => simp [Scan.Yields]
  | failed tokens error => simp [Scan.Yields]

/-- A cluster is scanned exactly when it writes items, and into these items. -/
theorem cluster_iff (schema : Schema Meaning) (names : List Char) (items : List (Item Meaning))
    (open? : Option (Spec Meaning)) :
    Cluster schema names items open? ↔ (scanCluster schema names).Yields items open? := by
  induction names generalizing items with
  | nil =>
    constructor
    · rintro ⟨⟩
      exact ⟨rfl, rfl⟩
    · rintro ⟨rfl, rfl⟩
      exact .done
  | cons name names ih =>
    constructor
    · intro written
      cases written with
      | flag member called bare rest =>
        have found := Schema.findShort?_eq_some_iff.mpr ⟨member, called⟩
        simp only [scanCluster, found, bare, Bool.false_eq_true, ↓reduceIte]
        exact Scan.yields_after.mpr ⟨_, rfl, (ih _).mp rest⟩
      | attached value member called valued nonempty =>
        have found := Schema.findShort?_eq_some_iff.mpr ⟨member, called⟩
        have more : value.toList.isEmpty = false := by simpa using nonempty
        simp only [scanCluster, found, valued, more, Bool.false_eq_true, ↓reduceIte,
          String.ofList_toList]
        exact ⟨rfl, rfl⟩
      | waiting member called valued =>
        have found := Schema.findShort?_eq_some_iff.mpr ⟨member, called⟩
        simp only [scanCluster, found, valued, List.isEmpty_nil, ↓reduceIte]
        exact ⟨rfl, rfl⟩
    · intro scanned
      unfold scanCluster at scanned
      split at scanned
      · exact scanned.elim
      · rename_i spec found
        obtain ⟨member, called⟩ := Schema.findShort?_eq_some_iff.mp found
        split at scanned
        · rename_i valued
          split at scanned
          · rename_i last
            obtain ⟨rfl, rfl⟩ := scanned
            rw [List.isEmpty_iff.mp last]
            exact .waiting member called valued
          · rename_i more
            obtain ⟨rfl, rfl⟩ := scanned
            have nonempty : String.ofList names ≠ "" := by simpa using more
            have written := Cluster.attached _ member called valued nonempty
            rw [String.toList_ofList] at written
            exact written
        · rename_i bare
          obtain ⟨others, rfl, rest⟩ := Scan.yields_after.mp scanned
          exact .flag member called (Bool.eq_false_iff.mpr bare) ((ih others).mpr rest)

/-- The first name of a cluster does not make it look like a long name. -/
theorem Cluster.shape_of {names : List Char} {items : List (Item Meaning)}
    {open? : Option (Spec Meaning)} (regular : schema.Regular) (nonempty : names ≠ [])
    (shorts : Cluster schema names items open?) :
    Shape.of ("-" ++ String.ofList names) = .cluster names := by
  cases shorts with
  | done => exact absurd rfl nonempty
  | flag member called => exact Shape.of_cluster (regular.ne_dash member called) _
  | attached value member called => exact Shape.of_cluster (regular.ne_dash member called) _
  | waiting member called => exact Shape.of_cluster (regular.ne_dash member called) _

theorem shape_of_endOfOptions : Shape.of endOfOptions = .long "" none := by decide

theorem long_ne_endOfOptions {spec : Spec Meaning} (regular : schema.Regular)
    (member : spec ∈ schema.specs) : "--" ++ spec.long ≠ endOfOptions := by
  obtain ⟨nonempty, plain⟩ := regular.long spec member
  intro same
  have shape := Shape.of_long plain
  rw [same, shape_of_endOfOptions] at shape
  injection shape with empty
  exact nonempty empty.symm

/-- What is written in one argument is not the argument that ends the options. -/
theorem Argument.ne_endOfOptions {argument : String} {items : List (Item Meaning)}
    {open? : Option (Spec Meaning)} (regular : schema.Regular)
    (written : Argument schema argument items open?) : argument ≠ endOfOptions := by
  cases written with
  | path value bare =>
    intro same
    have shape := Shape.of_path bare
    rw [same, shape_of_endOfOptions] at shape
    cases shape
  | flag member => exact long_ne_endOfOptions regular member
  | assigned value member =>
    intro same
    have shape := Shape.of_assigned (regular.long _ member).2 value
    rw [same, shape_of_endOfOptions] at shape
    injection shape with _ clash
    cases clash
  | waiting member => exact long_ne_endOfOptions regular member
  | cluster nonempty shorts =>
    intro same
    have shape := shorts.shape_of regular nonempty
    rw [same, shape_of_endOfOptions] at shape
    cases shape

/-- One argument is scanned exactly when it writes items, and into these items. -/
theorem argument_iff (regular : schema.Regular) (argument : String) (items : List (Item Meaning))
    (open? : Option (Spec Meaning)) :
    Argument schema argument items open? ↔ (scan schema argument).Yields items open? := by
  constructor
  · intro written
    unfold scan
    cases written with
    | path value bare =>
      rw [Shape.of_path bare]
      exact ⟨rfl, rfl⟩
    | flag member bare =>
      have found := Schema.findLong?_eq_some_iff.mpr ⟨member, rfl⟩
      rw [Shape.of_long (regular.long _ member).2]
      simp only [scanLong, found, bare]
      exact ⟨rfl, rfl⟩
    | assigned value member valued =>
      have found := Schema.findLong?_eq_some_iff.mpr ⟨member, rfl⟩
      rw [Shape.of_assigned (regular.long _ member).2 value]
      simp only [scanLong, found, valued]
      exact ⟨rfl, rfl⟩
    | waiting member valued =>
      have found := Schema.findLong?_eq_some_iff.mpr ⟨member, rfl⟩
      rw [Shape.of_long (regular.long _ member).2]
      simp only [scanLong, found, valued]
      exact ⟨rfl, rfl⟩
    | cluster nonempty shorts =>
      rw [shorts.shape_of regular nonempty]
      exact (cluster_iff schema _ items open?).mp shorts
  · intro scanned
    have spelled := Shape.of_spells argument
    unfold scan at scanned
    split at scanned
    · rename_i shape
      rw [shape] at spelled
      obtain ⟨rfl, rfl⟩ := scanned
      exact .path argument spelled
    · rename_i name value? shape
      rw [shape] at spelled
      unfold scanLong at scanned
      split at scanned
      · exact scanned.elim
      · rename_i spec found
        obtain ⟨member, rfl⟩ := Schema.findLong?_eq_some_iff.mp found
        split at scanned
        · rename_i value valued
          obtain ⟨rfl, rfl⟩ := scanned
          rw [show argument = _ from spelled]
          exact .assigned value member valued
        · rename_i valued
          obtain ⟨rfl, rfl⟩ := scanned
          rw [show argument = _ from spelled]
          exact .waiting member valued
        · exact scanned.elim
        · rename_i bare
          obtain ⟨rfl, rfl⟩ := scanned
          rw [show argument = _ from spelled]
          exact .flag member bare
    · rename_i names shape
      rw [shape] at spelled
      obtain ⟨nonempty, rfl⟩ := spelled
      exact .cluster nonempty ((cluster_iff schema names items open?).mpr scanned)

/-- A command line is read without an error exactly when it writes items, and into these items. -/
theorem writing_iff (regular : schema.Regular) (arguments : List String)
    (items : List (Item Meaning)) :
    Writing schema arguments items ↔
      (tokenize schema arguments).error? = none ∧ (tokenize schema arguments).items = items := by
  constructor
  · intro written
    induction written with
    | nil => exact ⟨rfl, rfl⟩
    | complete first rest ih =>
      obtain ⟨success, same⟩ := ih
      have other := first.ne_endOfOptions regular
      obtain ⟨tokens, scanned, rfl⟩ :=
        Scan.yields_none.mp ((argument_iff regular _ _ _).mp first)
      rw [tokenize_complete other scanned, Tokens.items_after, same]
      exact ⟨success, rfl⟩
    | waiting first rest ih =>
      obtain ⟨success, same⟩ := ih
      have other := first.ne_endOfOptions regular
      obtain ⟨tokens, written, scanned, rfl⟩ :=
        Scan.yields_some.mp ((argument_iff regular _ _ _).mp first)
      rw [tokenize_waiting other scanned, Tokens.items_after, same]
      exact ⟨success, by simp [Token.item]⟩
    | ended tail =>
      rw [tokenize_ended]
      exact ⟨rfl, Tokens.items_paths tail none⟩
  · rintro ⟨success, rfl⟩
    induction arguments using arguments_induction schema with
    | nil => exact .nil
    | ended tail =>
      rw [tokenize_ended, Tokens.items_paths]
      exact .ended tail
    | complete argument rest tokens other scanned ih =>
      rw [tokenize_complete other scanned] at success ⊢
      rw [Tokens.items_after]
      have first := (argument_iff regular _ _ _).mpr (Scan.yields_none.mpr ⟨tokens, scanned, rfl⟩)
      exact .complete first (ih success)
    | failed argument rest tokens error other scanned =>
      rw [tokenize_failed other scanned] at success
      cases success
    | missing argument tokens spec written other scanned =>
      rw [tokenize_missing other scanned] at success
      cases success
    | waiting argument value rest tokens spec written other scanned ih =>
      rw [tokenize_waiting other scanned] at success ⊢
      rw [Tokens.items_after, List.map_append, List.append_assoc]
      have first := (argument_iff regular _ _ _).mpr
        (Scan.yields_some.mpr ⟨tokens, written, scanned, rfl⟩)
      exact .waiting first (ih success)

/-- Reading a command line finds the items that it writes. What is read without an error was written
in one of the ways there are, and there is an error exactly if nothing was. -/
theorem tokenize_writing (schema : Schema Meaning) (regular : schema.Regular)
    (arguments : List String) :
    (∀ items, Writing schema arguments items →
      (tokenize schema arguments).error? = none ∧ (tokenize schema arguments).items = items) ∧
    ((tokenize schema arguments).error? = none →
      Writing schema arguments (tokenize schema arguments).items) ∧
    ((tokenize schema arguments).error? ≠ none ↔ ¬ ∃ items, Writing schema arguments items) := by
  refine ⟨fun items => (writing_iff regular arguments items).mp,
    fun success => (writing_iff regular arguments _).mpr ⟨success, rfl⟩, ?_⟩
  constructor
  · rintro failure ⟨items, written⟩
    exact failure ((writing_iff regular arguments items).mp written).1
  · intro unwritten success
    exact unwritten ⟨_, (writing_iff regular arguments _).mpr ⟨success, rfl⟩⟩

theorem schema_regular : Options.schema.Regular where
  long := by decide +kernel
  short := by
    have single : ∀ spec ∈ Options.schema.specs,
        (spec.short?.all fun name => name.length == 1 && name != "-") = true := by
      decide +kernel
    intro spec member name called
    have letter := single spec member
    simp only [called, Option.all_some, Bool.and_eq_true, beq_iff_eq, bne_iff_ne] at letter
    obtain ⟨length, other⟩ := letter
    obtain ⟨c, spelled⟩ := List.length_eq_one_iff.mp (String.length_toList ▸ length)
    have same : name = String.singleton c := by
      rw [← String.toList_inj, spelled, String.toList_singleton]
    refine ⟨c, ?_, same⟩
    rintro rfl
    exact other same

def mixedArguments : List String := ["-vgo", "json:-", "--size=1-2", "-", "-T-df", "--", "-v"]

theorem tokenize_mixedArguments :
    Options.schema.Regular ∧
      Writing Options.schema mixedArguments (tokenize Options.schema mixedArguments).items ∧
      (tokenize Options.schema mixedArguments).error? = none := by
  obtain ⟨reads, writes, -⟩ := tokenize_writing Options.schema schema_regular mixedArguments
  have written := writes (by decide +kernel)
  exact ⟨schema_regular, written, (reads _ written).1⟩

end ScanSetup
