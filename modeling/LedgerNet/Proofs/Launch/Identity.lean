import LedgerNet.Fleet
import LedgerNet.Proofs.Definition.Insertions
import LedgerNet.Proofs.Files.Writing
import LedgerNet.Proofs.Launch.Quoting

/-!
# Who a node is known as and how it is started

Others know a node by the entry that it has in the bootstrap chain, and by
the copies of that entry in the stamps of nodes that were added later. The
node proves this identity with the certificate and the key that it is started
with. Four places ask whether it has them: the entry, the stamp, the files and
the start command.

They agree (`Definition.identity_matches_launch`). A node that was given a
certificate and a key, both not empty, stands in every chain and stamp under
the identity of its credentials, and is started with that pair. Every other
node, also one with half a pair, stands there under its own id and is started
without one: its only file is the configuration of the contract lane, and no
argument names a pair.

An option could also be written inside a text that goes into a start command
as it is. A log level or an identity can hold such a text; nothing else in the
command does (`StartsUnpinned.unspelled`). To the shell it is part of the script,
so a node whose log level spells the options out is handed a pair that it was
never given. Where every argument is one word to the shell, these words are what
it hands over (`handsOver_script`).
-/

namespace LedgerNet

open Shell

/-! ## Nodes with a pair -/

/-- **A node is pinned**: it was given these credentials, with a certificate
and a key. -/
structure NodeConfig.PinnedTo (node : NodeConfig) (c : Credentials) : Prop where
  given : node.params.credentials = some c
  cert_ne : c.cert ≠ ""
  key_ne : c.key ≠ ""

namespace NodeConfig

variable {node : NodeConfig} {c : Credentials}

/-- Credentials count exactly if they pin the node. -/
theorem credentials?_eq_some_iff : node.credentials? = some c ↔ node.PinnedTo c := by
  unfold credentials? NodeParams.credentials?
  rw [Option.filter_eq_some_iff]
  constructor
  · rintro ⟨hgiven, hcomplete⟩
    unfold Credentials.isComplete at hcomplete
    simp only [Bool.and_eq_true, decide_eq_true_eq] at hcomplete
    exact ⟨hgiven, hcomplete.1, hcomplete.2⟩
  · rintro ⟨hgiven, hcert, hkey⟩
    exact ⟨hgiven, by simp [Credentials.isComplete, hcert, hkey]⟩

theorem credentials?_eq_none_of_not (h : ∀ c, ¬ node.PinnedTo c) : node.credentials? = none :=
  Option.eq_none_iff_forall_ne_some.2 fun c hc => h c (credentials?_eq_some_iff.1 hc)

theorem PinnedTo.asPeer_eq (h : node.PinnedTo c) : node.asPeer = ⟨node.id, c.nodeId⟩ := by
  have hc : node.params.credentials? = some c := credentials?_eq_some_iff.2 h
  unfold asPeer NodeParams.asPeer NodeParams.identity
  rw [hc]
  rfl

theorem asPeer_eq_of_not (h : ∀ c, ¬ node.PinnedTo c) : node.asPeer = ⟨node.id, node.id⟩ := by
  have hnone : node.params.credentials? = none := credentials?_eq_none_of_not h
  unfold asPeer NodeParams.asPeer NodeParams.identity
  rw [hnone]
  rfl

theorem PinnedTo.files_eq (h : node.PinnedTo c) :
    node.files = [(Conventions.contractConfigFile, Conventions.contractConfig),
      (Conventions.certFile, c.cert), (Conventions.keyFile, c.key)] := by
  unfold files
  rw [credentials?_eq_some_iff.2 h]

theorem files_eq_of_not (h : ∀ c, ¬ node.PinnedTo c) :
    node.files = [(Conventions.contractConfigFile, Conventions.contractConfig)] := by
  unfold files
  rw [credentials?_eq_none_of_not h]

end NodeConfig

/-! ## What others know it as -/

namespace Definition

variable {d : Definition} {edits : List Edit} {moment : Nat} {node : NodeConfig}

/-- **An entry with the id of a node is the entry of that node**, which it
has exactly if it is a bootstrap node. -/
theorem Consistent.mem_chain_iff (h : d.Consistent) (hnode : node ∈ d.nodes) (peer : Peer) :
    peer ∈ d.chain ∧ peer.node = node.id ↔ node.isBootstrap = true ∧ peer = node.asPeer := by
  rw [h.chain_eq_chainOf, mem_chainOf]
  constructor
  · rintro ⟨⟨other, hother, hbootstrap, rfl⟩, hid⟩
    have hfound : d.node? node.id = some other := hid ▸ h.node?_eq hother
    obtain rfl : node = other := Option.some.inj ((h.node?_eq hnode).symm.trans hfound)
    exact ⟨hbootstrap, rfl⟩
  · rintro ⟨hbootstrap, rfl⟩
    exact ⟨⟨node, hnode, hbootstrap, rfl⟩, rfl⟩

/-- **A node is advertised** under an identity since the moment at which it
was added: at every later one the only entry with its id, in the chain as in
the stamp of a node that is added then, is its own with that identity. -/
structure Advertised (d : Definition) (edits : List Edit) (moment : Nat) (node : NodeConfig)
    (identity : String) : Prop where
  chain : ∀ later, moment < later → ∀ peer,
    peer ∈ (d.editedAll (edits.take later)).chain ∧ peer.node = node.id
      ↔ node.isBootstrap = true ∧ peer = ⟨node.id, identity⟩
  stamp : ∀ later other, moment < later → d.AddedAt edits later other → ∀ peer,
    peer ∈ other.dependsOn ∧ peer.node = node.id
      ↔ node.isBootstrap = true ∧ peer = ⟨node.id, identity⟩

/-- **A node that stands is advertised** under the identity in its entry. -/
theorem StandsSince.advertised (hstart : d.Consistent) (hnodes : d.nodes = [])
    (h : d.StandsSince edits moment node) {identity : String}
    (hidentity : node.asPeer = ⟨node.id, identity⟩) :
    d.Advertised edits moment node identity := by
  have hchain : ∀ later, moment < later → ∀ peer,
      peer ∈ (d.editedAll (edits.take later)).chain ∧ peer.node = node.id
        ↔ node.isBootstrap = true ∧ peer = ⟨node.id, identity⟩ := by
    intro later hlater peer
    have hmem := (mem_nodes_iff hstart hnodes).2 ⟨moment, h.take hlater⟩
    rw [(hstart.editedAll _).mem_chain_iff hmem, hidentity]
  refine ⟨hchain, fun later other hlater hother peer => ?_⟩
  rw [hother.stamped]
  exact hchain later hlater peer

end Definition

/-! ## Options in a text -/

/-- What is in a text that a letter parts in two, and is without that letter,
is on one side. -/
theorem infix_append_cons {α : Type} {part before after : List α} {x : α} (hx : x ∉ part)
    (h : part <:+: before ++ x :: after) : part <:+: before ∨ part <:+: after := by
  have hend : ∀ {rest}, rest <+: x :: after → rest ⊆ part → rest = [] := by
    intro rest hrest hsub
    obtain hnil | ⟨tail, rfl, -⟩ := List.prefix_cons_iff.1 hrest
    · exact hnil
    · exact absurd (hsub List.mem_cons_self) hx
  rcases List.infix_append_iff.1 h with h | h | ⟨first, second, rfl, hfirst, hsecond⟩
  · exact Or.inl h
  · rcases List.infix_cons_iff.1 h with h | h
    · rw [hend h (List.Subset.refl _)]
      exact Or.inl (List.nil_infix)
    · exact Or.inr h
  · rw [hend hsecond (List.subset_append_right first second), List.append_nil]
    exact Or.inl hfirst.isInfix

/-- What is in texts with a separator, and is without it, is in one of them,
by induction on the texts. -/
theorem infix_of_intercalate {α : Type} {part : List α} {x : α} {texts : List (List α)}
    (hx : x ∉ part) (hpart : part ≠ []) (h : part <:+: [x].intercalate texts) :
    ∃ text ∈ texts, part <:+: text := by
  induction texts with
  | nil => exact absurd (List.infix_nil.1 h) hpart
  | cons text texts ih =>
    cases texts with
    | nil =>
      rw [List.intercalate_singleton] at h
      exact ⟨text, List.mem_singleton_self text, h⟩
    | cons next rest =>
      rw [List.intercalate_cons_cons, List.append_assoc] at h
      rcases infix_append_cons hx h with h | h
      · exact ⟨text, List.mem_cons_self, h⟩
      · obtain ⟨other, hmem, hother⟩ := ih h
        exact ⟨other, List.mem_cons_of_mem _ hmem, hother⟩

namespace Launch

/-- **What the options for a pair begin with.** -/
def pairOption : List Char := "--staking-tls".toList

/-- An argument names a file of a pair. -/
def Names (argument : String) : Prop := pairOption <+: argument.toList

/-- Somewhere in a text such an option is written. -/
def Spells (text : String) : Prop := pairOption <:+: text.toList

instance (argument : String) : Decidable (Names argument) :=
  inferInstanceAs (Decidable (pairOption <+: argument.toList))

instance (text : String) : Decidable (Spells text) :=
  inferInstanceAs (Decidable (pairOption <:+: text.toList))

/-- Another option with a value does not name a file of a pair. -/
theorem not_names_option {option : String} (value : String)
    (h : ¬ pairOption <+: option.toList ∧ ¬ option.toList <+: pairOption) :
    ¬ Names (option ++ value) := by
  intro hnames
  unfold Names at hnames
  rw [String.toList_append] at hnames
  exact (List.prefix_or_prefix_of_prefix hnames (List.prefix_append _ _)).elim h.1 h.2

/-- An option is not written across the end of another one. -/
theorem spells_value {option value : String}
    (hoption : option.toList.getLast? = some '=' ∧ ¬ Spells option)
    (h : Spells (option ++ value)) : Spells value := by
  obtain ⟨name, hname⟩ := List.getLast?_eq_some_iff.1 hoption.1
  unfold Spells at h
  rw [String.toList_append, hname, List.append_assoc, List.singleton_append] at h
  refine (infix_append_cons (by decide) h).resolve_left fun hinfix => hoption.2 ?_
  unfold Spells
  rw [hname]
  exact hinfix.trans (List.prefix_append _ _).isInfix

theorem not_spells_of_no_dash {text : String} (h : '-' ∉ text.toList) : ¬ Spells text := by
  intro hspells
  have hdash : '-' ∈ pairOption := by decide
  exact h (List.IsInfix.subset hspells hdash)

theorem not_spells_nat (n : Nat) : ¬ Spells (toString n) :=
  not_spells_of_no_dash fun hdash => absurd (mem_digits_of_mem_toString hdash) (by decide)

theorem not_spells_ip (ip : Ip) : ¬ Spells ip.text :=
  not_spells_of_no_dash fun hdash => absurd (Ip.isLetter_of_mem_text hdash) (by decide)

/-- What texts with a separator spell, one of them does. -/
theorem spells_of_intercalate {separator : String} {x : Char} (hseparator : separator.toList = [x])
    (hx : x ∉ pairOption) {texts : List String} (h : Spells (String.intercalate separator texts)) :
    ∃ text ∈ texts, Spells text := by
  unfold Spells at h
  rw [String.toList_intercalate, hseparator] at h
  obtain ⟨letters, hmem, hletters⟩ := infix_of_intercalate hx (by decide) h
  obtain ⟨text, htext, rfl⟩ := List.mem_map.1 hmem
  exact ⟨text, htext, hletters⟩

theorem not_spells_ipList (ips : List Ip) : ¬ Spells (ipList ips) := by
  intro h
  obtain ⟨text, htext, h⟩ := spells_of_intercalate (x := ',') rfl (by decide) h
  obtain ⟨ip, -, rfl⟩ := List.mem_map.1 htext
  have hport : (":" ++ toString Conventions.stakingPort).toList = ':' :: "9651".toList := by
    decide +kernel
  unfold Spells at h
  rw [String.append_assoc, String.toList_append, hport] at h
  rcases infix_append_cons (by decide) h with h | h
  · exact not_spells_ip ip h
  · exact absurd h (by decide)

/-! ## The start command of a service -/

variable {launch : Launch} {ip : Ip} {mounts : Mounts} {config : String}

/-- **No argument but the pair names a file of one.** -/
theorem not_names_plainArguments :
    ∀ argument ∈ (launch.plainArguments ip).1 ++ (launch.plainArguments ip).2,
      ¬ Names argument := by
  unfold plainArguments
  simp only [List.cons_append, List.nil_append, List.forall_mem_cons]
  exact ⟨by decide, not_names_option _ (by decide), by decide, by decide, by decide, by decide,
    not_names_option _ (by decide), not_names_option _ (by decide),
    not_names_option _ (by decide), not_names_option _ (by decide),
    not_names_option _ (by decide), not_names_option _ (by decide),
    not_names_option _ (by decide), List.forall_mem_nil _⟩

/-- **Where an option for a pair can be written** but in the pair itself: in
the log level and in the identities. -/
theorem spells_of_plainArguments :
    ∀ argument ∈ (launch.plainArguments ip).1 ++ (launch.plainArguments ip).2,
      Spells argument → Spells launch.logLevel ∨ Spells launch.bootstrapIds := by
  have hstaking : ¬ Spells (toString launch.staking) := by
    cases launch.staking <;> decide +kernel
  unfold plainArguments
  simp only [List.cons_append, List.nil_append, List.forall_mem_cons]
  exact ⟨fun h => absurd h (by decide +kernel),
    fun h => absurd (spells_value (by decide +kernel) h) (not_spells_ip ip),
    fun h => absurd h (by decide +kernel), fun h => absurd h (by decide +kernel),
    fun h => absurd h (by decide +kernel), fun h => absurd h (by decide +kernel),
    fun h => Or.inl (spells_value (by decide +kernel) h),
    fun h => absurd (spells_value (by decide +kernel) h) (not_spells_nat _),
    fun h => absurd (spells_value (by decide +kernel) h) (not_spells_nat _),
    fun h => absurd (spells_value (by decide +kernel) h) hstaking,
    fun h => absurd (spells_value (by decide +kernel) h) (not_spells_nat _),
    fun h => Or.inr (spells_value (by decide +kernel) h),
    fun h => absurd (spells_value (by decide +kernel) h) (not_spells_ipList _),
    List.forall_mem_nil _⟩

/-- **A script that names no pair** spells out no option for one but in the log
level and in the identities. -/
theorem spells_of_script (hpair : ¬ launch.NamesPair mounts)
    (h : Spells (script "/test-volume/c-chain-config" (launch.arguments ip mounts))) :
    Spells launch.logLevel ∨ Spells launch.bootstrapIds := by
  have hmoving : ∀ word ∈ movingWords "/test-volume/c-chain-config" ++ ["&&"], ¬ Spells word := by
    decide +kernel
  have hconfig : ¬ Spells (configArgument "/test-volume/c-chain-config") := by decide +kernel
  rw [script_eq, List.append_cons, arguments_eq, pairArguments_of_not hpair,
    List.append_nil] at h
  obtain ⟨word, hmem, hspells⟩ := spells_of_intercalate (x := ' ') rfl (by decide) h
  rcases List.mem_append.1 hmem with hmem | hmem
  · exact absurd hspells (hmoving word hmem)
  · rcases List.mem_append.1 hmem with hmem | hmem
    · exact spells_of_plainArguments word hmem hspells
    · rw [List.mem_singleton.1 hmem] at hspells
      exact absurd hspells hconfig

/-- What the identities spell out, one of them does. -/
theorem spells_of_bootstrapIds {node : NodeConfig} (h : Spells node.bootstrapIds) :
    ∃ peer ∈ node.dependsOn, Spells peer.identity := by
  obtain ⟨identity, hmem, hspells⟩ := spells_of_intercalate (x := ',') rfl (by decide) h
  obtain ⟨peer, hpeer, rfl⟩ := List.mem_map.1 hmem
  exact ⟨peer, hpeer, hspells⟩

/-- **What is handed over to the node** by a start command that is a shell
with a script of two commands: the words of the second one. -/
def HandsOver (command words : List String) : Prop :=
  ∃ script moving starting, command = ["/bin/sh", "-c", script]
    ∧ parse script.toList = .ok (.thenIf true (.command [] moving) (.command [] starting))
    ∧ ∀ fuel s, 2 ≤ fuel → expand fuel s starting = (s, words)

/-- A script hands over its words, without double quotes. -/
theorem handsOver_script {arguments : List String}
    (hprogram : arguments.head? = some Conventions.nodeBinary) (hconfig : Plain config)
    (harguments : ∀ argument ∈ arguments, IsWord argument.toList) :
    HandsOver ["/bin/sh", "-c", script config arguments]
      ((arguments ++ [configArgument config]).map unquoted) := by
  refine ⟨_, _, _, rfl, parse_script hprogram hconfig harguments, fun fuel s hfuel => ?_⟩
  rw [expand_wordOf (isWord_startingWords hconfig harguments) hfuel]

theorem handsOver_render (hconfig : mounts.path? Conventions.contractConfigFile = some config)
    (hplain : launch.IsPlain mounts) :
    HandsOver (launch.render ip mounts)
      ((launch.arguments ip mounts ++ [configArgument config]).map unquoted) := by
  have hpath : Plain config := hplain.paths _ (Mounts.mem_of_path? hconfig)
  rw [render_of_config launch ip hconfig]
  exact handsOver_script rfl hpath (isWord_arguments ip hplain)

end Launch

/-! ## What it is started with -/

/-- **A file of a service holds a text** wherever the files of the service
were written to. -/
def ServiceSpec.Holds (spec : ServiceSpec) (file contents : String) : Prop :=
  ∀ directory host left,
    (Workspace.materialise directory spec.files).runOn PlannedHost.answer host = (.ok (), left) →
      left.files.read (Path.join directory file) = .ok (Text.utf8Bytes contents)

namespace Fleet

open Launch

variable (d : Definition) (node : NodeConfig) (ips : List Ip) (ip : Ip)

/-- Where a node finds its files. -/
def mountsOf : Mounts := (serviceOf d node ips).mountsIn Conventions.volumeMountpoint

/-- The arguments of a node with these files. -/
def argumentsOf : List String := (ofNode d node ips).arguments ip (mountsOf d node ips)

/-- The start command of a node with these files. -/
def commandOf : List String := (serviceOf d node ips).command ip (mountsOf d node ips)

/-- **A node is started with a pair**: the start command names the certificate
and the key, next to each other, and their files hold them. Where the log level
and the identities are plain text, the words that the node is handed over name
them without quotes. -/
structure StartsPinned (c : Credentials) : Prop where
  command : commandOf d node ips ip
    = ["/bin/sh", "-c", script "/test-volume/c-chain-config" (argumentsOf d node ips ip)]
  named : ["--staking-tls-cert-file=\"/test-volume/staking-tls-cert\"",
    "--staking-tls-key-file=\"/test-volume/staking-tls-key\""] <:+: argumentsOf d node ips ip
  handed : Plain node.logLevel → Plain node.bootstrapIds →
    ∃ words, HandsOver (commandOf d node ips ip) words
      ∧ ["--staking-tls-cert-file=/test-volume/staking-tls-cert",
        "--staking-tls-key-file=/test-volume/staking-tls-key"] <:+: words
  cert : (serviceOf d node ips).Holds Conventions.certFile c.cert
  key : (serviceOf d node ips).Holds Conventions.keyFile c.key

/-- **A node is started without a pair**: no argument names a file of one, and
there is no such file. Where the log level and the identities are plain text,
no word that the node is handed over names one either. -/
structure StartsUnpinned : Prop where
  command : commandOf d node ips ip
    = ["/bin/sh", "-c", script "/test-volume/c-chain-config" (argumentsOf d node ips ip)]
  unnamed : ∀ argument ∈
    argumentsOf d node ips ip ++ [configArgument "/test-volume/c-chain-config"], ¬ Names argument
  /-- An option for a pair is written nowhere in the command but in a text
  that somebody else wrote. -/
  unspelled : ∀ part ∈ commandOf d node ips ip, Spells part →
    Spells node.logLevel ∨ ∃ peer ∈ node.dependsOn, Spells peer.identity
  handed : Plain node.logLevel → Plain node.bootstrapIds →
    ∃ words, HandsOver (commandOf d node ips ip) words ∧ ∀ word ∈ words, ¬ Names word
  files : (serviceOf d node ips).files
    = [(Conventions.contractConfigFile, Conventions.contractConfig)]

variable {d node ips ip} {c : Credentials}

/-- The files that a node can have. -/
theorem names_sublist (node : NodeConfig) : (node.files.map Prod.fst).Sublist
    [Conventions.contractConfigFile, Conventions.certFile, Conventions.keyFile] := by
  unfold NodeConfig.files
  rw [List.map_cons]
  refine List.Sublist.cons_cons _ ?_
  cases node.credentials? with
  | none => exact List.nil_sublist _
  | some c => exact List.Sublist.refl _

/-- **What a node is given is in its files**, wherever they are written. -/
theorem holds_of_mem {file contents : String} (hfile : (file, contents) ∈ node.files) :
    (serviceOf d node ips).Holds file contents := by
  have hnames : ∀ name ∈ [Conventions.contractConfigFile, Conventions.certFile,
      Conventions.keyFile], Path.IsName name := by decide +kernel
  intro directory host left hmade
  refine Workspace.read_of_materialise (fun file hmem => ?_) ?_ hmade (file, contents) hfile
  · exact hnames file.1 ((names_sublist node).subset (List.mem_map_of_mem hmem))
  · exact List.Nodup.sublist (names_sublist node) (by decide +kernel)

/-- The mounts of a node, by the names of its files. -/
theorem mountsOf_eq (d : Definition) (node : NodeConfig) (ips : List Ip) : mountsOf d node ips
    = (node.files.map Prod.fst).map fun name =>
        (name, Path.join Conventions.volumeMountpoint name) := by
  rw [List.map_map]
  rfl

/-- **Every file is found under its own name** in the directory for them. -/
theorem path?_mountsOf (file : String) : (mountsOf d node ips).path? file
    = if file ∈ node.files.map Prod.fst then some (Path.join Conventions.volumeMountpoint file)
      else none := by
  rw [mountsOf_eq]
  induction node.files.map Prod.fst with
  | nil => rfl
  | cons name names ih =>
    unfold Mounts.path? at ih ⊢
    rw [List.map_cons, List.find?_cons]
    by_cases hname : name = file
    · simp [hname]
    · have hskip : (name == file) = false := beq_eq_false_iff_ne.2 hname
      rw [hskip]
      simp only [List.mem_cons, Ne.symm hname, false_or]
      exact ih

theorem path?_config : (mountsOf d node ips).path? Conventions.contractConfigFile
    = some "/test-volume/c-chain-config" := by
  have hmem : Conventions.contractConfigFile ∈ node.files.map Prod.fst := List.mem_cons_self
  have hjoin : Path.join Conventions.volumeMountpoint Conventions.contractConfigFile
      = "/test-volume/c-chain-config" := by decide +kernel
  rw [path?_mountsOf, if_pos hmem, hjoin]

/-- The command is a shell with a script. -/
theorem commandOf_eq : commandOf d node ips ip
    = ["/bin/sh", "-c", script "/test-volume/c-chain-config" (argumentsOf d node ips ip)] :=
  render_of_config (ofNode d node ips) ip path?_config

/-- Where the log level and the identities are plain text, all is. -/
theorem isPlain (d : Definition) (ips : List Ip) (hlevel : Plain node.logLevel)
    (hids : Plain node.bootstrapIds) : (ofNode d node ips).IsPlain (mountsOf d node ips) := by
  have hpaths : ∀ name ∈ [Conventions.contractConfigFile, Conventions.certFile,
      Conventions.keyFile], Plain (Path.join Conventions.volumeMountpoint name) := by
    decide +kernel
  refine ⟨hlevel, hids, ?_⟩
  rw [mountsOf_eq]
  exact List.forall_mem_map.2 fun name hname => hpaths name ((names_sublist node).subset hname)

/-- **The pair is named exactly in the start command of a pinned node.** -/
theorem namesPair_iff :
    (ofNode d node ips).NamesPair (mountsOf d node ips) ↔ ∃ c, node.PinnedTo c := by
  have hpinned : (ofNode d node ips).pinned = node.credentials?.isSome := rfl
  unfold NamesPair
  rw [hpinned, path?_mountsOf, path?_mountsOf]
  constructor
  · rintro ⟨hsome, -⟩
    obtain ⟨c, hc⟩ := Option.isSome_iff_exists.1 hsome
    exact ⟨c, NodeConfig.credentials?_eq_some_iff.1 hc⟩
  · rintro ⟨c, hc⟩
    rw [NodeConfig.credentials?_eq_some_iff.2 hc, hc.files_eq]
    simp

/-- The arguments of a pinned node, with the pair among them. -/
theorem argumentsOf_pinned (h : node.PinnedTo c) : argumentsOf d node ips ip
    = ((ofNode d node ips).plainArguments ip).1
      ++ ["--staking-tls-cert-file=\"/test-volume/staking-tls-cert\"",
        "--staking-tls-key-file=\"/test-volume/staking-tls-key\""]
      ++ ((ofNode d node ips).plainArguments ip).2 := by
  have hpinned : (ofNode d node ips).pinned = true := by
    show node.credentials?.isSome = true
    rw [NodeConfig.credentials?_eq_some_iff.2 h]
    rfl
  have hpair : (ofNode d node ips).pairArguments (mountsOf d node ips)
      = ["--staking-tls-cert-file=\"/test-volume/staking-tls-cert\"",
        "--staking-tls-key-file=\"/test-volume/staking-tls-key\""] := by
    unfold pairArguments
    rw [hpinned, path?_mountsOf, path?_mountsOf, if_pos (by simp [h.files_eq]),
      if_pos (by simp [h.files_eq])]
    decide +kernel
  unfold argumentsOf
  rw [arguments_eq, hpair]

/-- **A pinned node is started with its pair.** -/
theorem startsPinned (h : node.PinnedTo c) (d : Definition) (ips : List Ip) (ip : Ip) :
    StartsPinned d node ips ip c := by
  have hnamed : ["--staking-tls-cert-file=\"/test-volume/staking-tls-cert\"",
      "--staking-tls-key-file=\"/test-volume/staking-tls-key\""]
        <:+: argumentsOf d node ips ip := by
    rw [argumentsOf_pinned h]
    exact List.infix_append _ _ _
  refine ⟨commandOf_eq, hnamed, fun hlevel hids => ?_, ?_, ?_⟩
  · refine ⟨_, handsOver_render path?_config (isPlain d ips hlevel hids), ?_⟩
    have hunquoted : ["--staking-tls-cert-file=\"/test-volume/staking-tls-cert\"",
        "--staking-tls-key-file=\"/test-volume/staking-tls-key\""].map unquoted
        = ["--staking-tls-cert-file=/test-volume/staking-tls-cert",
          "--staking-tls-key-file=/test-volume/staking-tls-key"] := by decide +kernel
    rw [← hunquoted]
    exact List.IsInfix.map unquoted (hnamed.trans (List.prefix_append _ _).isInfix)
  · exact holds_of_mem (by simp [h.files_eq])
  · exact holds_of_mem (by simp [h.files_eq])

/-- **A node that is not pinned is started without a pair.** -/
theorem startsUnpinned (h : ∀ c, ¬ node.PinnedTo c) (d : Definition) (ips : List Ip) (ip : Ip) :
    StartsUnpinned d node ips ip := by
  have hpair : ¬ (ofNode d node ips).NamesPair (mountsOf d node ips) := fun hnames =>
    (namesPair_iff.1 hnames).elim h
  have harguments : argumentsOf d node ips ip = ((ofNode d node ips).plainArguments ip).1
      ++ ((ofNode d node ips).plainArguments ip).2 := by
    unfold argumentsOf
    rw [arguments_eq, pairArguments_of_not hpair, List.append_nil]
  have hunnamed : ∀ argument ∈ argumentsOf d node ips ip, ¬ Names argument := by
    rw [harguments]
    exact not_names_plainArguments
  refine ⟨commandOf_eq, ?_, ?_, fun hlevel hids => ?_, NodeConfig.files_eq_of_not h⟩
  · exact List.forall_mem_append.2 ⟨hunnamed, List.forall_mem_singleton.2 (by decide +kernel)⟩
  · rw [commandOf_eq]
    simp only [List.forall_mem_cons]
    exact ⟨fun hspells => absurd hspells (by decide +kernel),
      fun hspells => absurd hspells (by decide +kernel),
      fun hspells => (spells_of_script hpair hspells).imp_right spells_of_bootstrapIds,
      List.forall_mem_nil _⟩
  · have hplain := isPlain d ips hlevel hids
    refine ⟨_, handsOver_render path?_config hplain, ?_⟩
    rw [List.map_append, (map_unquoted_arguments_eq_iff hplain).2 hpair]
    exact List.forall_mem_append.2 ⟨hunnamed, List.forall_mem_singleton.2 (by decide +kernel)⟩

end Fleet

/-! ## Who it is known as is who it is started as -/

/-- **A node is started as the node that others know.** However a definition
came about, every node of it stands since some moment. If it was given
credentials with a certificate and a key, it is advertised under their identity
from then on, and it is started with that pair. Otherwise it is advertised
under its own id, and it is started without a pair. -/
theorem Definition.identity_matches_launch {params : NetworkParams} {empty : Definition}
    (hempty : Definition.ofParams params = .ok empty) (edits : List Edit) :
    ∀ node ∈ (empty.editedAll edits).nodes, ∃ moment, empty.StandsSince edits moment node
      ∧ (∀ c, node.PinnedTo c → empty.Advertised edits moment node c.nodeId
        ∧ ∀ ips ip, Fleet.StartsPinned (empty.editedAll edits) node ips ip c)
      ∧ ((∀ c, ¬ node.PinnedTo c) → empty.Advertised edits moment node node.id
        ∧ ∀ ips ip, Fleet.StartsUnpinned (empty.editedAll edits) node ips ip) := by
  intro node hnode
  have hconsistent := Consistent.ofParams hempty
  have hnodes : empty.nodes = [] := by rw [ofParams_eq_ok hempty]
  obtain ⟨moment, hstands⟩ := (mem_nodes_iff hconsistent hnodes).1 hnode
  refine ⟨moment, hstands, fun c hpinned => ?_, fun hnot => ?_⟩
  · exact ⟨hstands.advertised hconsistent hnodes hpinned.asPeer_eq,
      fun ips ip => Fleet.startsPinned hpinned _ ips ip⟩
  · exact ⟨hstands.advertised hconsistent hnodes (NodeConfig.asPeer_eq_of_not hnot),
      fun ips ip => Fleet.startsUnpinned hnot _ ips ip⟩

/-- A network of a node with a pair, one with half a pair and one with none: the
first one is known by the identity that its certificate proves and finds that
certificate, the second one by its id, although an identity came with its half. -/
theorem Definition.identity_matches_launch_half_pair :
    let member (id : String) (c : Credentials) : NodeParams :=
      { NodeParams.plain .empty id with role := .bootstrap 0, credentials := some c }
    let first : NodeConfig := ⟨member "b1" ⟨"NodeID-1", "cert", "key"⟩, []⟩
    let second : NodeConfig := ⟨member "b2" ⟨"NodeID-2", "cert", ""⟩, [⟨"b1", "NodeID-1"⟩]⟩
    let edits : List Edit :=
      [.add first.params, .add second.params, .add (NodeParams.plain .empty "worker")]
    let empty : Definition := ⟨⟨"node", 1, 1, 1⟩, [], []⟩
    ofParams ⟨"node", 1, 1, 1⟩ = .ok empty
      ∧ first ∈ (empty.editedAll edits).nodes ∧ second ∈ (empty.editedAll edits).nodes
      ∧ ⟨"b1", "NodeID-1"⟩ ∈ (empty.editedAll edits).chain
      ∧ ⟨"b2", "b2"⟩ ∈ (empty.editedAll edits).chain
      ∧ (∃ left, (Workspace.materialise "/ws/b1" first.files).runOn PlannedHost.answer
            (PlannedHost.fresh none "testnet" "/ws") = (.ok (), left)
          ∧ left.files.read "/ws/b1/staking-tls-cert" = .ok (Text.utf8Bytes "cert"))
      ∧ ∀ argument ∈ Fleet.argumentsOf (empty.editedAll edits) second [] (.v4 (.ofOctets 10 0 0 2)),
        ¬ Launch.Names argument := by
  intro member first second edits empty
  have hempty : ofParams ⟨"node", 1, 1, 1⟩ = .ok empty := by decide
  have hfirst : first ∈ (empty.editedAll edits).nodes := by decide +kernel
  have hsecond : second ∈ (empty.editedAll edits).nodes := by decide +kernel
  obtain ⟨since, hstands, hpair, -⟩ := identity_matches_launch hempty edits first hfirst
  obtain ⟨hadvertised, hstarts⟩ := hpair ⟨"NodeID-1", "cert", "key"⟩
    ⟨rfl, by decide, by decide⟩
  obtain ⟨since', hstands', -, hnone⟩ := identity_matches_launch hempty edits second hsecond
  obtain ⟨hadvertised', hstarts'⟩ := hnone fun c hpinned => by
    obtain rfl := Option.some.inj hpinned.given
    exact hpinned.key_ne rfl
  refine ⟨hempty, hfirst, hsecond, ?_, ?_, ?_, ?_⟩
  · exact ((hadvertised.chain 3 hstands.lt_length ⟨"b1", "NodeID-1"⟩).2 ⟨rfl, rfl⟩).1
  · exact ((hadvertised'.chain 3 hstands'.lt_length ⟨"b2", "b2"⟩).2 ⟨rfl, rfl⟩).1
  · have hmade : ((Workspace.materialise "/ws/b1" first.files).runOn PlannedHost.answer
        (PlannedHost.fresh none "testnet" "/ws")).1 = .ok () := by decide +kernel
    have hjoin : Path.join "/ws/b1" Conventions.certFile = "/ws/b1/staking-tls-cert" := by
      decide +kernel
    have hread := (hstarts [] (.v4 (.ofOctets 10 0 0 2))).cert _ _ _ (Prod.ext hmade rfl)
    rw [hjoin] at hread
    exact ⟨_, Prod.ext hmade rfl, hread⟩
  · exact fun argument hargument => (hstarts' [] (.v4 (.ofOctets 10 0 0 2))).unnamed argument
      (List.mem_append_left _ hargument)

/-- **A text that somebody else wrote can name a pair.** A node without
credentials is known by its id. Its log level goes into the script as it is, and
if it spells out the two options, the node is started with them. -/
theorem Definition.unpinned_handed_pair :
    let params : NodeParams :=
      { NodeParams.plain .empty "b1" with
        role := .bootstrap 0
        logLevel := "info --staking-tls-cert-file=/x/cert --staking-tls-key-file=/x/key" }
    let empty : Definition := ⟨⟨"node", 1, 1, 1⟩, [], []⟩
    ofParams ⟨"node", 1, 1, 1⟩ = .ok empty
      ∧ (empty.editedAll [.add params]).nodes = [⟨params, []⟩]
      ∧ (empty.editedAll [.add params]).chain = [⟨"b1", "b1"⟩]
      ∧ params.credentials = none
      ∧ ∃ words,
        Launch.HandsOver (Fleet.commandOf (empty.editedAll [.add params]) ⟨params, []⟩ []
          (.v4 (.ofOctets 10 0 0 2))) words
        ∧ ["--staking-tls-cert-file=/x/cert", "--staking-tls-key-file=/x/key"] <:+: words := by
  intro params empty
  refine ⟨by decide, by decide +kernel, by decide +kernel, rfl, ?_⟩
  let before : List String :=
    [Conventions.nodeBinary, "--public-ip=10.0.0.2", "--network-id=local", "--http-port=9650",
      "--http-host=", "--staking-port=9651", "--log-level=info"]
  let written : List String := ["--staking-tls-cert-file=/x/cert", "--staking-tls-key-file=/x/key"]
  let after : List String :=
    ["--snow-sample-size=1", "--snow-quorum-size=1", "--staking-enabled=false", "--tx-fee=1",
      "--bootstrap-ids=", "--bootstrap-ips="]
  -- The script does not tell a blank inside an argument from one between two.
  have hscript : Launch.script "/test-volume/c-chain-config"
      (Fleet.argumentsOf (empty.editedAll [.add params]) ⟨params, []⟩ []
        (.v4 (.ofOctets 10 0 0 2)))
      = Launch.script "/test-volume/c-chain-config" (before ++ written ++ after) := by
    decide +kernel
  rw [Fleet.commandOf_eq, hscript]
  refine ⟨_, Launch.handsOver_script rfl (by decide) (by decide +kernel), ?_⟩
  have hunquoted : written.map unquoted = written := by decide +kernel
  rw [List.map_append, List.map_append, List.map_append, hunquoted]
  exact (List.infix_append _ _ _).trans (List.prefix_append _ _).isInfix

end LedgerNet
