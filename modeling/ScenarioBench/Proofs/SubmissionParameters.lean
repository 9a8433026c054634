import ScenarioBench.Proofs.GivenValues
import ScenarioBench.Proofs.OctetOrder
import ScenarioBench.Proofs.OutputVerification
import ScenarioBench.Proofs.SearchPaths

/-! The parameters of a composite that is launched.

Parameters are set on the command line, and a bound service offers its user for the names that are left. Main
statement: the arguments of the job are ordered by their names, with one for each name; a name that is set on the
command line has the last text that sets it, the two names of the user have those of the service if they are not set,
and there are no others.
-/

set_option autoImplicit false

namespace ScenarioBench.CommandLine

structure Sets (text name value : String) : Prop where
  whole : text = name ++ "=" ++ value
  plain : '=' ∉ name.toList
  named : name ≠ ""

def Unset (texts : List String) (name : String) : Prop :=
  ∀ text ∈ texts, ∀ value, ¬ Sets text name value

/-- The last text of a list that sets a name. -/
structure LastSetting (texts : List String) (name text : String) : Prop where
  sets : ∃ value, Sets text name value
  last : ∃ before after, texts = before ++ text :: after ∧ Unset after name

section
variable {texts : List String} {text name value : String}

theorem readSetting?_eq_some_iff : readSetting? text = some (name, value) ↔ Sets text name value := by
  unfold readSetting?
  rw [Option.filter_eq_some_iff, Text.splitAtFirst_equals_iff, decide_eq_true_iff]
  constructor
  · rintro ⟨⟨whole, plain⟩, named⟩
    exact ⟨whole, plain, named⟩
  · rintro ⟨whole, plain, named⟩
    exact ⟨⟨whole, plain⟩, named⟩

theorem isSome_readSetting?_iff :
    (readSetting? text).isSome ↔ '=' ∈ text.toList ∧ text.toList.head? ≠ some '=' := by
  constructor
  · intro read
    obtain ⟨⟨name, value⟩, found⟩ := Option.isSome_iff_exists.1 read
    obtain ⟨rfl, plain, named⟩ := readSetting?_eq_some_iff.1 found
    obtain ⟨first, rest, whole⟩ := List.exists_cons_of_ne_nil
      fun empty => named (String.toList_inj.1 (empty.trans String.toList_empty.symm))
    rw [whole] at plain
    have other : first ≠ '=' := fun same => plain (same ▸ List.mem_cons_self)
    simp [whole, other]
  · rintro ⟨member, other⟩
    obtain ⟨front, back, whole, plain⟩ := List.eq_append_cons_of_mem member
    have sets : Sets text (String.ofList front) (String.ofList back) := by
      refine ⟨String.toList_inj.1 (by simp [whole]), by simpa using plain, ?_⟩
      rintro empty
      obtain rfl : front = [] := by simpa using congrArg String.toList empty
      exact other (by rw [whole]; rfl)
    rw [readSetting?_eq_some_iff.2 sets]
    rfl

theorem complaint?_setting_iff {octets : Octets} : ValueKind.setting.complaint? octets = none ↔
    ∃ text, octets = Octets.ofText text ∧ '=' ∈ text.toList ∧ text.toList.head? ≠ some '=' := by
  unfold ValueKind.complaint?
  rcases read : octets.toText? with _ | text
  · refine iff_of_false nofun ?_
    rintro ⟨text, rfl, -⟩
    rw [Octets.toText?_ofText] at read
    cases read
  · have same := Octets.ofText_of_toText? read
    have accepts : (if (readSetting? text).isSome then none else some Stop.unreadableValue) = none ↔
        (readSetting? text).isSome := by
      cases (readSetting? text).isSome <;> simp
    dsimp only
    rw [accepts, isSome_readSetting?_iff]
    constructor
    · intro accepted
      exact ⟨text, same.symm, accepted⟩
    · rintro ⟨other, given, accepted⟩
      obtain rfl := Octets.ofText_injective (same.trans given)
      exact accepted

theorem map_ofText_texts {given : Given} {name : String}
    (textual : ∀ octets ∈ given.values name, ∃ text, octets = Octets.ofText text) :
    (given.texts name).map Octets.ofText = given.values name := by
  unfold Given.texts
  generalize given.values name = all at textual ⊢
  induction all with
  | nil => rfl
  | cons octets rest ih =>
    obtain ⟨⟨text, rfl⟩, others⟩ := List.forall_mem_cons.1 textual
    rw [List.filterMap_cons_some (Octets.toText?_ofText text), List.map_cons, ih others]

theorem settings_of_read {arguments : List Octets} {outer inner : Given}
    (taken : read topLevel levelOf arguments = .ok (outer, "launch-composite", inner)) :
    ∃ texts : List String, inner.values "param" = texts.map Octets.ofText ∧
      (∀ text ∈ texts, '=' ∈ text.toList ∧ text.toList.head? ≠ some '=') ∧
      inner.compositeRequest.parameters = texts.filterMap readSetting? := by
  have unique : ∀ argument, Known (levelOf "launch-composite") argument → argument.name = "param" →
      argument.effect = .value .setting true := by
    have listed : ∀ argument ∈ (levelOf "launch-composite").options ++ (levelOf "launch-composite").positionals,
        argument.name = "param" → argument.effect = .value .setting true := by
      decide +kernel
    exact fun argument known => listed argument (List.mem_append.2 known)
  have accepted : ∀ octets ∈ inner.values "param", ValueKind.setting.complaint? octets = none := by
    intro octets member
    obtain ⟨⟨name, values⟩, entry, inside⟩ := List.mem_flatMap.1 member
    dsimp only at inside
    split at inside
    · next same =>
      cases (read_acceptable taken).2 _ entry with
      | intro known passes => exact passes _ _ (unique _ known (eq_of_beq same)) octets inside
    · cases inside
  refine ⟨inner.texts "param", (map_ofText_texts fun octets member => ?_).symm, ?_, rfl⟩
  · obtain ⟨text, same, -⟩ := complaint?_setting_iff.1 (accepted octets member)
    exact ⟨text, same⟩
  · intro text member
    obtain ⟨octets, given, read⟩ := List.mem_filterMap.1 member
    obtain ⟨other, same, passes⟩ := complaint?_setting_iff.1 (accepted octets given)
    rw [same, Octets.toText?_ofText] at read
    cases read
    exact passes

theorem lookup_settings_eq_none_iff :
    (texts.filterMap readSetting?).reverse.lookup name = none ↔ Unset texts name := by
  rw [List.lookup_eq_none_iff]
  constructor
  · intro missed text member value sets
    have listed : (name, value) ∈ texts.filterMap readSetting? :=
      List.mem_filterMap.2 ⟨text, member, readSetting?_eq_some_iff.2 sets⟩
    have differs := missed _ (List.mem_reverse.2 listed)
    simp at differs
  · rintro unset ⟨other, value⟩ member
    obtain ⟨text, among, read⟩ := List.mem_filterMap.1 (List.mem_reverse.1 member)
    have differs : name ≠ other := by
      rintro rfl
      exact unset text among value (readSetting?_eq_some_iff.1 read)
    simpa using differs

theorem lookup_settings_eq_some_iff : (texts.filterMap readSetting?).reverse.lookup name = some value ↔
    ∃ text, LastSetting texts name text ∧ Sets text name value := by
  constructor
  · intro found
    obtain ⟨later, earlier, split, missed⟩ := List.lookup_eq_some_iff.1 found
    -- Turned around, the texts are divided where the setting was read.
    have turned : texts.filterMap readSetting? = earlier.reverse ++ (name, value) :: later.reverse := by
      have reversed := congrArg List.reverse split
      simpa using reversed
    obtain ⟨front, back, rfl, -, behind⟩ := List.filterMap_eq_append_iff.1 turned
    obtain ⟨skipped, text, rest, rfl, -, read, others⟩ := List.filterMap_eq_cons_iff.1 behind
    have sets := readSetting?_eq_some_iff.1 read
    refine ⟨text, ⟨⟨value, sets⟩, front ++ skipped, rest, by simp, ?_⟩, sets⟩
    rw [← lookup_settings_eq_none_iff, others, List.reverse_reverse, List.lookup_eq_none_iff]
    exact missed
  · rintro ⟨text, ⟨-, before, after, rfl, unset⟩, sets⟩
    have behind := lookup_settings_eq_none_iff.2 unset
    rw [List.filterMap_append, List.filterMap_cons_some (readSetting?_eq_some_iff.2 sets), List.reverse_append,
      List.reverse_cons, List.append_assoc, List.lookup_append, behind]
    simp

end

/-- What a bound service offers for a name. -/
inductive Offers (binding : ServiceBinding) : String → String → Prop where
  | user {user password : String} : binding.user = some user → binding.password = some password →
      Offers binding "user" user
  | password {user password : String} : binding.user = some user → binding.password = some password →
      Offers binding "password" password

structure Arguments (texts : List String) (service : Option ServiceBinding) (arguments : List String) : Prop where
  ascending : arguments.Pairwise fun first second => ∃ name value other held,
    Sets first name value ∧ Sets second other held ∧ Octets.ofText name < Octets.ofText other
  told : ∀ argument, argument ∈ arguments ↔ (∃ name, LastSetting texts name argument) ∨
    ∃ binding name value, service = some binding ∧ Offers binding name value ∧ Unset texts name ∧
      argument = name ++ "=" ++ value

section
variable {texts : List String} {name value : String} {binding : ServiceBinding} {service : Option ServiceBinding}

theorem mem_userParameters_iff : (name, value) ∈ binding.userParameters ↔ Offers binding name value := by
  unfold ServiceBinding.userParameters
  constructor
  · intro member
    split at member
    · next user password named secret =>
      simp only [List.mem_cons, Prod.mk.injEq, List.not_mem_nil, or_false] at member
      rcases member with ⟨rfl, rfl⟩ | ⟨rfl, rfl⟩
      · exact .user named secret
      · exact .password named secret
    · cases member
  · intro offers
    cases offers with
    | user named secret | password named secret => simp [named, secret]

theorem nodup_userParameters (binding : ServiceBinding) : (binding.userParameters.map (·.1)).Nodup := by
  unfold ServiceBinding.userParameters
  split
  · exact (by decide : ["user", "password"].Nodup)
  · exact List.nodup_nil

theorem Offers.sets (offers : Offers binding name value) : Sets (name ++ "=" ++ value) name value := by
  cases offers with
  | user | password => exact ⟨rfl, by decide, by decide⟩

/-- What a service is asked for when there is one. -/
def offered (service : Option ServiceBinding) : List (String × String) :=
  (service.map ServiceBinding.userParameters).getD []

theorem get?_insertMany_settings {parameters : Dictionary String} (bare : parameters = .empty) :
    ((parameters.insertMany (offered service)).insertMany (texts.filterMap readSetting?)).get? name = some value ↔
      (∃ text, LastSetting texts name text ∧ Sets text name value) ∨
      Unset texts name ∧ ∃ binding, service = some binding ∧ Offers binding name value := by
  have different : ((offered service).map (·.1)).Nodup := by
    rcases service with _ | binding
    · exact List.nodup_nil
    · exact nodup_userParameters binding
  have offers : ((parameters.insertMany (offered service)).get? name = some value) ↔
      ∃ binding, service = some binding ∧ Offers binding name value := by
    rw [bare, Dictionary.get?_insertMany_of_nodup different]
    rcases service with _ | binding
    · simp [offered]
    · simp [offered, mem_userParameters_iff]
  rw [Dictionary.get?_insertMany]
  rcases found : (texts.filterMap readSetting?).reverse.lookup name with _ | last
  · -- Nothing sets the name, so that only an offer is left.
    have unset := lookup_settings_eq_none_iff.1 found
    rw [Option.none_or, offers]
    constructor
    · intro offer
      exact .inr ⟨unset, offer⟩
    · rintro (⟨text, ⟨-, before, after, rfl, -⟩, sets⟩ | ⟨-, offer⟩)
      · exact absurd sets (unset text (by simp) value)
      · exact offer
  · have set : ¬ Unset texts name := by
      rw [← lookup_settings_eq_none_iff, found]
      exact nofun
    rw [Option.some_or, ← found, lookup_settings_eq_some_iff]
    constructor
    · exact .inl
    · rintro (last | ⟨unset, -⟩)
      · exact last
      · exact absurd unset set

theorem arguments_of_parameters {topology : Topology}
    (parameters : ∀ name value, topology.parameters.get? name = some value ↔
      (∃ text, LastSetting texts name text ∧ Sets text name value) ∨
      Unset texts name ∧ ∃ binding, service = some binding ∧ Offers binding name value) :
    Arguments texts service topology.parameterArguments := by
  have rendered : ∀ entry ∈ topology.parameters.entries, Sets (entry.1 ++ "=" ++ entry.2) entry.1 entry.2 := by
    rintro ⟨name, value⟩ member
    rcases (parameters name value).1 (Dictionary.mem_entries_iff.1 member) with ⟨text, -, sets⟩ | ⟨-, _, -, offers⟩
    · exact ⟨rfl, sets.plain, sets.named⟩
    · exact offers.sets
  constructor
  · unfold Topology.parameterArguments
    rw [List.pairwise_map]
    refine topology.parameters.ascending.imp_of_mem ?_
    intro first second member other less
    exact ⟨_, _, _, _, rendered first member, rendered second other, Octets.ofText_lt_iff.2 less⟩
  · intro argument
    unfold Topology.parameterArguments
    rw [List.mem_map]
    constructor
    · rintro ⟨⟨name, value⟩, member, rfl⟩
      rcases (parameters name value).1 (Dictionary.mem_entries_iff.1 member) with
        ⟨text, last, sets⟩ | ⟨unset, binding, bound, offers⟩
      · left
        obtain rfl := sets.whole
        exact ⟨name, last⟩
      · right
        exact ⟨binding, name, value, bound, offers, unset, rfl⟩
    · rintro (⟨name, last⟩ | ⟨binding, name, value, bound, offers, unset, rfl⟩)
      · obtain ⟨value, sets⟩ := last.sets
        have held := (parameters name value).2 (.inl ⟨argument, last, sets⟩)
        exact ⟨(name, value), Dictionary.mem_entries_iff.2 held, sets.whole.symm⟩
      · have held := (parameters name value).2 (.inr ⟨unset, binding, bound, offers⟩)
        exact ⟨(name, value), Dictionary.mem_entries_iff.2 held, rfl⟩

end

/-- The binding that a composite is offered parameters by: on the service one has to be there, elsewhere none is
looked for. -/
inductive Bound (surroundings : Surroundings) (tree : FileTree) (context : JobContext) (dryRun : Bool) :
    Option ServiceBinding → Prop where
  | elsewhere : context ≠ .service ∨ dryRun = true → Bound surroundings tree context dryRun none
  | service {binding : ServiceBinding} : context = .service → dryRun = false →
      ServiceBinding.ofEnvironment surroundings.environment tree = .ok binding →
      Bound surroundings tree context dryRun (some binding)

def laidOut (settings : LauncherSettings) (request : CompositeRequest) (target : LaunchTarget)
    (usual : List (String × String)) : Except LaunchError Topology := do
  let job ← Topology.ofComposite (jobName request) request.kind
  return (((job.addToolkit (target.toolkit.getD settings.toolkit)).addToolkits
    request.toolkits).setParameters usual).setParameters request.parameters

def submitLaidOut (surroundings : Surroundings) (settings : LauncherSettings) (request : CompositeRequest)
    (target : LaunchTarget) (topology : Topology) : Serving Bool := do
  let submitter ← submitterTo surroundings settings (target.context.getD settings.context) target.dryRun
  if request.expect.isSome then requireOutput submitter topology.name
  let handle ← Serving.within .launch (submitter.submit topology (compositeConfig request).toMap)
  report target.dryRun handle
  match request.expect with
  | none => return true
  | some marker => do
    Serving.settled (handle.verify marker)
    Serving.say (handle.name ++ " pass")
    return true

section
variable {surroundings : Surroundings} {context : JobContext} {dryRun : Bool} {session : Session}

theorem usualParameters_of_bound {service : Option ServiceBinding}
    (bound : Bound surroundings session.world.tree context dryRun service) :
    usualParameters surroundings context dryRun session = (.ok (offered service), session) := by
  cases bound with
  | elsewhere idle =>
    rw [usualParameters_none surroundings idle]
    rfl
  | service here makes read =>
    unfold usualParameters
    rw [here, makes, if_pos (by decide), Action.bind_of_ok (show Action.look _ = (.ok _, _) from rfl), read]
    rfl

theorem usualParameters_of_unbound
    (unbound : ∀ service, ¬ Bound surroundings session.world.tree context dryRun service) :
    ∃ cause, usualParameters surroundings context dryRun session = (.error cause, session) := by
  have here : context = .service ∧ dryRun = false := by
    have notElsewhere := fun idle => unbound none (.elsewhere idle)
    simpa [not_or] using notElsewhere
  obtain ⟨rfl, rfl⟩ := here
  unfold usualParameters
  rw [if_pos (by decide), Action.bind_of_ok (show Action.look _ = (.ok _, _) from rfl)]
  rcases read : ServiceBinding.ofEnvironment surroundings.environment session.world.tree with cause | binding
  · exact ⟨_, rfl⟩
  · exact absurd (.service rfl rfl read) (unbound (some binding))

variable {settings : LauncherSettings} {request : CompositeRequest} {target : LaunchTarget}

theorem launchComposite_laidOut {texts : List String} {service : Option ServiceBinding}
    (given : request.parameters = texts.filterMap readSetting?) (named : (Composite.splitKind? request.kind).isSome)
    (bound : Bound surroundings session.world.tree (target.context.getD settings.context) target.dryRun service) :
    ∃ topology, laidOut settings request target (offered service) = .ok topology ∧
      Arguments texts service topology.parameterArguments ∧
      launchComposite surroundings settings request target session =
        submitLaidOut surroundings settings request target topology session := by
  obtain ⟨parts, split⟩ := Option.isSome_iff_exists.1 named
  let job : Topology :=
    { name := jobName request, composite := request.kind, toolkits := [], parameters := .empty }
  have made : Topology.ofComposite (jobName request) request.kind = .ok job := by
    rw [Topology.ofComposite, split]
  let searching := (job.addToolkit (target.toolkit.getD settings.toolkit)).addToolkits request.toolkits
  have bare : searching.parameters = .empty := by
    rw [show searching.parameters = _ from congrArg Topology.parameters (Topology.addToolkits_eq ..),
      Topology.addToolkit]
    split <;> rfl
  refine ⟨(searching.setParameters (offered service)).setParameters request.parameters, ?_, ?_, ?_⟩
  · rw [laidOut, made]
    rfl
  · apply arguments_of_parameters
    intro name value
    show (Dictionary.insertMany (Dictionary.insertMany _ _) _).get? name = some value ↔ _
    rw [given]
    exact get?_insertMany_settings bare
  · unfold launchComposite
    rw [made, Action.bind_of_ok (show Serving.settled (.ok job) session = (.ok job, session) from rfl),
      Action.bind_of_ok (usualParameters_of_bound bound)]
    rfl

theorem launchComposite_refused_early (unready : Composite.splitKind? request.kind = none ∨
      ∀ service, ¬ Bound surroundings session.world.tree (target.context.getD settings.context) target.dryRun service) :
    ∃ cause, launchComposite surroundings settings request target session = (.error cause, session) := by
  unfold launchComposite
  refine refused_of_idle (settled_idle _) fun job made => ?_
  rcases unready with unnamed | unbound
  · rw [Topology.ofComposite, unnamed] at made
    cases made
  · obtain ⟨cause, failed⟩ := usualParameters_of_unbound unbound
    exact ⟨cause, Action.bind_of_error failed _⟩

end

/-- A composite that is launched is given the settings of its command line, and the user of the service behind it for
the names that they leave. -/
theorem composites_take_settings (surroundings : Surroundings) (settings : LauncherSettings)
    (request : CompositeRequest) (target : LaunchTarget) (session : Session) (texts : List String)
    (given : request.parameters = texts.filterMap readSetting?) :
    (∀ arguments outer inner, read topLevel levelOf arguments = .ok (outer, "launch-composite", inner) →
      ∃ texts : List String, inner.values "param" = texts.map Octets.ofText ∧
        (∀ text ∈ texts, '=' ∈ text.toList ∧ text.toList.head? ≠ some '=') ∧
        inner.compositeRequest.parameters = texts.filterMap readSetting?) ∧
    (∀ octets, ValueKind.setting.complaint? octets = none ↔
      ∃ text, octets = Octets.ofText text ∧ '=' ∈ text.toList ∧ text.toList.head? ≠ some '=') ∧
    (∀ text, (readSetting? text).isSome ↔ '=' ∈ text.toList ∧ text.toList.head? ≠ some '=') ∧
    (∀ service, (Composite.splitKind? request.kind).isSome →
      Bound surroundings session.world.tree (target.context.getD settings.context) target.dryRun service →
      ∃ topology, laidOut settings request target (offered service) = .ok topology ∧
        Arguments texts service topology.parameterArguments ∧
        launchComposite surroundings settings request target session =
          submitLaidOut surroundings settings request target topology session) ∧
    ((Composite.splitKind? request.kind = none ∨ ∀ service,
        ¬ Bound surroundings session.world.tree (target.context.getD settings.context) target.dryRun service) →
      ∃ cause, launchComposite surroundings settings request target session = (.error cause, session)) :=
  ⟨fun _ _ _ => settings_of_read, fun _ => complaint?_setting_iff, fun _ => isSome_readSetting?_iff,
    fun _ named bound => launchComposite_laidOut given named bound, launchComposite_refused_early⟩

def boundUser : ServiceBinding :=
  { apiKey := none, address2 := none, address := none, user := some "u", password := some "s" }

def boundSurroundings : Surroundings where
  environment := .ofPairs [(Variable.serviceName, "sa"), (Variable.boundServices, Json.compact
    (.object [("kind", .array [.object [("name", .string "sa"),
      ("credentials", .object [("userid", .string "u"), ("password", .string "s")])]])]))]
  runner := markingSurroundings.runner
  network := Http.unreachable

theorem bound_boundSurroundings :
    Bound boundSurroundings (World.fresh default).tree .service false (some boundUser) :=
  .service rfl rfl (ok_of_toOption (by decide +kernel))

def userOverridden : CompositeRequest :=
  { kind := "a::B", name := none, toolkits := [], parameters := [("user", "a=b"), ("x", "1"), ("x", "2")]
    expect := none, trace := none }

theorem composites_take_settings_userOverridden :
    userOverridden.parameters = ["user=a=b", "x=1", "x=2"].filterMap readSetting? ∧
    ∃ topology, laidOut .standard userOverridden ⟨some .service, none, false⟩ (offered (some boundUser)) = .ok topology ∧
      Arguments ["user=a=b", "x=1", "x=2"] (some boundUser) topology.parameterArguments ∧
      launchComposite boundSurroundings .standard userOverridden ⟨some .service, none, false⟩ ⟨.fresh default, ""⟩ =
        submitLaidOut boundSurroundings .standard userOverridden ⟨some .service, none, false⟩ topology
          ⟨.fresh default, ""⟩ := by
  have given : userOverridden.parameters = ["user=a=b", "x=1", "x=2"].filterMap readSetting? := by decide +kernel
  obtain ⟨-, -, -, laidOut, -⟩ := composites_take_settings boundSurroundings .standard userOverridden
    ⟨some .service, none, false⟩ ⟨.fresh default, ""⟩ _ given
  exact ⟨given, laidOut _ (by decide +kernel) bound_boundSurroundings⟩

end ScenarioBench.CommandLine
