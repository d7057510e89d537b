import LedgerNet.Launch
import LedgerNet.Proofs.Net.Ip
import LedgerNet.Proofs.Shell.Words

/-!
# The two forms of a start command

A node is started with its arguments as they are, or by a shell that first
renames the configuration of the contract lane and reads the arguments from a
script. As long as what goes into them is plain text, the shell hands over
what the other form hands over, without double quotes, and one argument more
that names the renamed configuration (`Launch.render_agrees`).

Without double quotes: the paths of the certificate and the key of a pinned
node stand between quotes in either form. The shell takes them away. Where
there is no shell they stay, and the node looks for files whose names begin
and end with a quote. So the forms agree exactly where that pair is not named.
-/

namespace LedgerNet

open Shell

/-! ## Texts -/

namespace Shell

/-- **A text as a shell reads it**: without its double quotes. -/
def unquoted (text : String) : String := String.ofList (bare text.toList)

theorem unquoted_append (first second : String) :
    unquoted (first ++ second) = unquoted first ++ unquoted second := by
  unfold unquoted
  rw [String.toList_append, bare_append, String.ofList_append]

theorem unquoted_of_plain {text : String} (h : Plain text) : unquoted text = text := by
  unfold unquoted
  rw [bare_of_no_quote h.no_quote, String.ofList_toList]

/-- No quote is left. -/
theorem not_mem_map_unquoted {text : String} (h : '"' ∈ text.toList) (texts : List String) :
    text ∉ texts.map unquoted := by
  intro hmem
  obtain ⟨other, -, rfl⟩ := List.mem_map.1 hmem
  unfold unquoted bare at h
  rw [String.toList_ofList] at h
  exact absurd (List.mem_filter.1 h).2 (by decide)

theorem plain_nat (n : Nat) : Plain (toString n) := by
  have hdigits : Plain "0123456789abcdef" := by decide
  exact fun c hc => hdigits c (mem_digits_of_mem_toString hc)

theorem plain_ip (ip : Ip) : Plain ip.text := by
  have hletters : Plain "0123456789abcdef:." := by decide
  exact fun c hc => hletters c (Ip.isLetter_of_mem_text hc)

/-- Plain texts with a plain separator. -/
theorem plain_intercalate {separator : String} {texts : List String} (hseparator : Plain separator)
    (h : ∀ text ∈ texts, Plain text) : Plain (String.intercalate separator texts) := by
  intro c hc
  rw [String.toList_intercalate] at hc
  obtain hc | ⟨letters, hmem, hc⟩ := mem_of_mem_intercalate hc
  · exact hseparator c hc
  · obtain ⟨text, htext, rfl⟩ := List.mem_map.1 hmem
    exact h text htext c hc

end Shell

/-! ## Mounts -/

namespace Mounts

/-- The mounts but for one file. -/
def without (mounts : Mounts) (file : String) : Mounts := mounts.filter (·.1 != file)

theorem path?_without_self (mounts : Mounts) (file : String) :
    (mounts.without file).path? file = none := by
  unfold path? without
  rw [Option.map_eq_none_iff, List.find?_eq_none]
  intro mount hmount
  simpa using (List.mem_filter.1 hmount).2

theorem path?_without (mounts : Mounts) {file other : String} (h : other ≠ file) :
    (mounts.without file).path? other = mounts.path? other := by
  unfold path? without
  rw [List.find?_filter]
  refine congrArg (Option.map Prod.snd) (congrArg (List.find? · mounts) (funext fun mount => ?_))
  by_cases hname : mount.1 = other
  · simp [hname, h]
  · simp [hname]

theorem mem_of_path? {mounts : Mounts} {file path : String} (h : mounts.path? file = some path) :
    (file, path) ∈ mounts := by
  obtain ⟨⟨name, _⟩, hfind, rfl⟩ := Option.map_eq_some_iff.1 h
  obtain rfl : name = file := by simpa using List.find?_some hfind
  exact List.mem_of_find?_eq_some hfind

end Mounts

/-! ## Arguments -/

namespace Launch

/-- **A launch in plain text**: neither what it says nor a path has blanks or
characters with a meaning of their own to a shell. -/
structure IsPlain (launch : Launch) (mounts : Mounts) : Prop where
  logLevel : Plain launch.logLevel
  bootstrapIds : Plain launch.bootstrapIds
  paths : ∀ mount ∈ mounts, Plain mount.2

variable {launch : Launch} {ip : Ip} {mounts : Mounts} {config : String}

/-- **Whether the pair of a pinned node is named** in its start command. -/
def NamesPair (launch : Launch) (mounts : Mounts) : Prop :=
  launch.pinned = true ∧ (mounts.path? Conventions.certFile).isSome = true
    ∧ (mounts.path? Conventions.keyFile).isSome = true

theorem pairArguments_of_not (h : ¬ launch.NamesPair mounts) :
    launch.pairArguments mounts = [] := by
  unfold pairArguments
  split
  · rename_i hpinned hcert hkey
    exact absurd ⟨hpinned, by rw [hcert]; rfl, by rw [hkey]; rfl⟩ h
  · rfl

/-- The arguments that do not name the pair: those before it and those after
it. -/
def plainArguments (launch : Launch) (ip : Ip) : List String × List String :=
  ([ Conventions.nodeBinary,
    "--public-ip=" ++ ip.text,
    "--network-id=" ++ Conventions.networkName,
    "--http-port=" ++ toString Conventions.httpPort,
    "--http-host=",
    "--staking-port=" ++ toString Conventions.stakingPort,
    "--log-level=" ++ launch.logLevel,
    "--snow-sample-size=" ++ toString launch.sampleSize,
    "--snow-quorum-size=" ++ toString launch.quorumSize,
    "--staking-enabled=" ++ toString launch.staking,
    "--tx-fee=" ++ toString launch.txFee ],
  [ "--bootstrap-ids=" ++ launch.bootstrapIds,
    "--bootstrap-ips=" ++ ipList launch.bootstrapIps ])

theorem arguments_eq : launch.arguments ip mounts
    = (launch.plainArguments ip).1 ++ launch.pairArguments mounts
      ++ (launch.plainArguments ip).2 := rfl

theorem plain_ipList (ips : List Ip) : Plain (ipList ips) := by
  refine plain_intercalate (by decide) fun text htext => ?_
  obtain ⟨ip, -, rfl⟩ := List.mem_map.1 htext
  exact ((plain_ip ip).append (by decide)).append (plain_nat _)

/-- **An option and its value** are one word, and plain. -/
theorem plain_option {option value : String} (hoption : IsWord option.toList ∧ Plain option)
    (hvalue : Plain value) : IsWord (option ++ value).toList ∧ Plain (option ++ value) := by
  refine ⟨?_, hoption.2.append hvalue⟩
  rw [String.toList_append]
  exact hoption.1.append (.of_plain hvalue)

/-- **The arguments that do not name the pair** are plain words. -/
theorem plain_plainArguments (ip : Ip) (h : launch.IsPlain mounts) :
    ∀ argument ∈ (launch.plainArguments ip).1 ++ (launch.plainArguments ip).2,
      IsWord argument.toList ∧ Plain argument := by
  have hstaking : Plain (toString launch.staking) := by
    cases launch.staking <;> decide
  unfold plainArguments
  simp only [List.cons_append, List.nil_append, List.forall_mem_cons]
  exact ⟨by decide, plain_option (by decide) (plain_ip ip), by decide,
    plain_option (by decide) (plain_nat _), by decide, plain_option (by decide) (plain_nat _),
    plain_option (by decide) h.logLevel, plain_option (by decide) (plain_nat _),
    plain_option (by decide) (plain_nat _), plain_option (by decide) hstaking,
    plain_option (by decide) (plain_nat _), plain_option (by decide) h.bootstrapIds,
    plain_option (by decide) (plain_ipList _), List.forall_mem_nil _⟩

/-- An option with a path between quotes is one word. -/
theorem isWord_quotedPath {option path : String} (hoption : IsWord option.toList)
    (hpath : Plain path) : IsWord (option ++ quotedPath path).toList := by
  rw [String.toList_append]
  exact hoption.append (.of_quoted hpath)

/-- **Every argument is one word** to a shell. -/
theorem isWord_arguments (ip : Ip) (h : launch.IsPlain mounts) :
    ∀ argument ∈ launch.arguments ip mounts, IsWord argument.toList := by
  have hplain := List.forall_mem_append.1 (plain_plainArguments ip h)
  rw [arguments_eq]
  refine List.forall_mem_append.2 ⟨List.forall_mem_append.2 ⟨fun argument hmem =>
    (hplain.1 argument hmem).1, ?_⟩, fun argument hmem => (hplain.2 argument hmem).1⟩
  unfold pairArguments
  split
  · rename_i hcert hkey
    exact List.forall_mem_cons.2
      ⟨isWord_quotedPath (by decide) (h.paths _ (Mounts.mem_of_path? hcert)),
        List.forall_mem_singleton.2
          (isWord_quotedPath (by decide) (h.paths _ (Mounts.mem_of_path? hkey)))⟩
  · exact List.forall_mem_nil _

/-- Quotes are taken away from the pair and from nothing else. -/
theorem map_unquoted_arguments (h : launch.IsPlain mounts) :
    (launch.arguments ip mounts).map unquoted
      = (launch.plainArguments ip).1 ++ (launch.pairArguments mounts).map unquoted
        ++ (launch.plainArguments ip).2 := by
  have hplain := List.forall_mem_append.1 (plain_plainArguments ip h)
  have hsame : ∀ {arguments : List String}, (∀ argument ∈ arguments,
      IsWord argument.toList ∧ Plain argument) → arguments.map unquoted = arguments := fun hall =>
    (List.map_congr_left fun argument hmem => unquoted_of_plain (hall argument hmem).2).trans
      (List.map_id _)
  rw [arguments_eq, List.map_append, List.map_append, hsame hplain.1, hsame hplain.2]

/-- **Taking quotes away changes the arguments** exactly if they name the
pair. -/
theorem map_unquoted_arguments_eq_iff (h : launch.IsPlain mounts) :
    (launch.arguments ip mounts).map unquoted = launch.arguments ip mounts
      ↔ ¬ launch.NamesPair mounts := by
  constructor
  · rintro hsame ⟨hpinned, hcert, hkey⟩
    obtain ⟨cert, hcert⟩ := Option.isSome_iff_exists.1 hcert
    obtain ⟨key, hkey⟩ := Option.isSome_iff_exists.1 hkey
    have hpair : "--staking-tls-cert-file=" ++ quotedPath cert ∈ launch.pairArguments mounts := by
      unfold pairArguments
      rw [hpinned, hcert, hkey]
      exact List.mem_cons_self
    have hmem : "--staking-tls-cert-file=" ++ quotedPath cert ∈ launch.arguments ip mounts := by
      rw [arguments_eq]
      exact List.mem_append_left _ (List.mem_append_right _ hpair)
    rw [← hsame] at hmem
    exact not_mem_map_unquoted (by simp [quotedPath]) _ hmem
  · intro hpair
    rw [map_unquoted_arguments h, arguments_eq, pairArguments_of_not hpair]
    rfl

/-! ## The script -/

/-- The words that rename the configuration. -/
def movingWords (config : String) : List String :=
  ["mv", quotedPath config, quotedPath (config ++ ".json")]

theorem isWord_movingWords (h : Plain config) :
    ∀ word ∈ movingWords config, IsWord word.toList := by
  have hquoted : ∀ {path}, Plain path → IsWord (quotedPath path).toList := fun hpath =>
    ⟨.of_quoted hpath, by simp [quotedPath]⟩
  simp only [movingWords, List.forall_mem_cons]
  exact ⟨by decide, hquoted h, hquoted (h.append (by decide)), List.forall_mem_nil _⟩

/-- The script is its words with blanks between them. -/
theorem script_eq (config : String) (arguments : List String) :
    script config arguments = String.intercalate " "
      (movingWords config ++ "&&" :: (arguments ++ [configArgument config])) := by
  obtain ⟨first, rest, hwords⟩ := List.exists_cons_of_ne_nil
    (List.append_ne_nil_of_right_ne_nil arguments (List.cons_ne_nil (configArgument config) []))
  have hmv : "mv " = "mv" ++ " " := by decide
  have hand : " && " = " " ++ "&&" ++ " " := by decide
  unfold script movingWords
  rw [hwords, hmv, hand]
  simp only [List.cons_append, List.nil_append, String.intercalate_cons_cons, String.append_assoc]

/-- The script, letter by letter. -/
theorem toList_script (config : String) (arguments : List String) :
    (script config arguments).toList
      = ((movingWords config).map String.toList).flatMap (· ++ [' '])
        ++ '&' :: '&' :: ' ' :: ((arguments.map String.toList).flatMap (· ++ [' '])
          ++ (configArgument config).toList) := by
  have hand : "&&".toList = ['&', '&'] := rfl
  have hblank : " ".toList = [' '] := rfl
  rw [script_eq, ← List.cons_append, ← List.append_assoc, String.toList_intercalate, hblank,
    List.map_append, List.map_singleton, intercalate_concat, List.map_append, List.map_cons, hand,
    List.flatMap_append, List.flatMap_cons]
  simp only [List.append_assoc, List.cons_append, List.nil_append]

/-- **The script is read as its words**, with `&&` between those that rename
the configuration and those that start the node. -/
theorem read_script {arguments : List String} (hconfig : Plain config)
    (harguments : ∀ argument ∈ arguments, IsWord argument.toList) :
    Shell.read .start .none (script config arguments).toList
      = .ok (((movingWords config).map fun word => wordOf word.toList).map Token.word
        ++ Token.operator "&&" :: ((arguments ++ [configArgument config]).map
          fun word => wordOf word.toList).map Token.word) := by
  have hmoving : ∀ text ∈ (movingWords config).map String.toList, IsWord text :=
    List.forall_mem_map.2 (isWord_movingWords hconfig)
  have hstarting : ∀ text ∈ arguments.map String.toList, IsWord text :=
    List.forall_mem_map.2 harguments
  have hlast : IsWord (configArgument config).toList :=
    isWord_quotedPath (by decide) (hconfig.append (by decide))
  rw [toList_script]
  refine (read_words hmoving [] _).trans ?_
  rw [read_and, read_blank]
  refine (read_words hstarting _ _).trans ((hlast.read_last _).trans ?_)
  simp [Reader.closed, Function.comp_def]

/-- **The script of a start command is two commands**, whatever words come after
the program. -/
theorem parse_script {arguments : List String}
    (hprogram : arguments.head? = some Conventions.nodeBinary) (hconfig : Plain config)
    (harguments : ∀ argument ∈ arguments, IsWord argument.toList) :
    parse (script config arguments).toList
      = .ok (.thenIf true
        (.command [] ((movingWords config).map fun word => wordOf word.toList))
        (.command [] ((arguments ++ [configArgument config]).map
          fun word => wordOf word.toList))) := by
  obtain ⟨rest, rfl⟩ := List.head?_eq_some_iff.1 hprogram
  exact parse_and (names_wordOf "mv" (by decide) (by decide) (by decide))
    (names_wordOf Conventions.nodeBinary (by decide) (by decide) (by decide))
    (read_script hconfig harguments)

/-- What plain words are handed over as, once they were read. -/
theorem expand_wordOf {words : List String} (h : ∀ word ∈ words, IsWord word.toList) {fuel : Nat}
    (hfuel : 2 ≤ fuel) (s : State) :
    expand fuel s (words.map fun word => wordOf word.toList) = (s, words.map unquoted) := by
  have hexpand := expand_words (List.forall_mem_map.2 h) hfuel s
  rw [List.map_map, List.map_map] at hexpand
  exact hexpand

/-- **Every word that starts the node** is one word to a shell. -/
theorem isWord_startingWords {arguments : List String} (hconfig : Plain config)
    (harguments : ∀ argument ∈ arguments, IsWord argument.toList) :
    ∀ word ∈ arguments ++ [configArgument config], IsWord word.toList :=
  List.forall_mem_append.2 ⟨harguments,
    List.forall_mem_singleton.2 (isWord_quotedPath (by decide) (hconfig.append (by decide)))⟩

theorem unquoted_quotedPath {path : String} (h : Plain path) :
    unquoted (quotedPath path) = path := by
  have hquote : unquoted "\"" = "" := by decide
  unfold quotedPath
  rw [unquoted_append, unquoted_append, unquoted_of_plain h, hquote, String.append_empty,
    String.empty_append]

/-- Where the configuration is mounted, the command is a shell with a script. -/
theorem render_of_config (launch : Launch) (ip : Ip)
    (hconfig : mounts.path? Conventions.contractConfigFile = some config) :
    launch.render ip mounts = ["/bin/sh", "-c", script config (launch.arguments ip mounts)] := by
  unfold render
  rw [hconfig]

/-- The arguments do not depend on where the configuration is mounted. -/
theorem render_without (launch : Launch) (ip : Ip) (mounts : Mounts) :
    launch.render ip (mounts.without Conventions.contractConfigFile)
      = launch.arguments ip mounts := by
  unfold render
  rw [Mounts.path?_without_self]
  unfold arguments pairArguments
  rw [Mounts.path?_without _ (by decide), Mounts.path?_without _ (by decide)]

/-- **The two forms of a start command.** Where the configuration of the
contract lane is mounted and all that goes into the command is plain text, the
command is a shell with a script of two commands. The first one renames the
configuration; the second one is handed the words of the form without that
mount, without their double quotes, and one word more that names the renamed
configuration. These are the words of the other form if and only if it does
not name the certificate and the key of a pinned node. -/
theorem render_agrees (launch : Launch) (ip : Ip) {mounts : Mounts} {config : String}
    (hconfig : mounts.path? Conventions.contractConfigFile = some config)
    (hplain : launch.IsPlain mounts) :
    let raw := launch.render ip (mounts.without Conventions.contractConfigFile)
    let renamed := "--config-file=" ++ config ++ ".json"
    ∃ script moving starting, launch.render ip mounts = ["/bin/sh", "-c", script]
      ∧ parse script.toList = .ok (.thenIf true (.command [] moving) (.command [] starting))
      ∧ (∀ fuel s, 2 ≤ fuel →
        expand fuel s moving = (s, ["mv", config, config ++ ".json"])
          ∧ expand fuel s starting = (s, raw.map unquoted ++ [renamed]))
      ∧ (raw.map unquoted ++ [renamed] = raw ++ [renamed] ↔ ¬ launch.NamesPair mounts) := by
  intro raw renamed
  have hpath : Plain config := hplain.paths _ (Mounts.mem_of_path? hconfig)
  have hjson : Plain (config ++ ".json") := hpath.append (by decide)
  have hrenamed : unquoted (configArgument config) = renamed := by
    have hoption : unquoted "--config-file=" = "--config-file=" := by decide
    unfold configArgument
    rw [unquoted_append, unquoted_quotedPath hjson, hoption, ← String.append_assoc]
  have hraw : raw = launch.arguments ip mounts := render_without launch ip mounts
  rw [hraw]
  refine ⟨script config (launch.arguments ip mounts),
    (movingWords config).map fun word => wordOf word.toList,
    (launch.arguments ip mounts ++ [configArgument config]).map fun word => wordOf word.toList,
    render_of_config launch ip hconfig, parse_script rfl hpath (isWord_arguments ip hplain),
    fun fuel s hfuel => ⟨?_, ?_⟩, ?_⟩
  · rw [expand_wordOf (isWord_movingWords hpath) hfuel]
    simp only [movingWords, List.map_cons, List.map_nil, unquoted_quotedPath hpath,
      unquoted_quotedPath hjson]
    rfl
  · rw [expand_wordOf (isWord_startingWords hpath (isWord_arguments ip hplain)) hfuel,
      List.map_append, List.map_singleton, hrenamed]
  · rw [List.append_left_inj, map_unquoted_arguments_eq_iff hplain]

/-! ### A pinned node -/

/-- The launch of a node that is pinned and the first of its network. -/
def pinnedFirst : Launch := ⟨"info", 1, 1, true, 1000000000, true, "", []⟩

/-- All of its files, each in the directory for them under its own name. -/
def allMounted : Mounts :=
  [Conventions.contractConfigFile, Conventions.certFile, Conventions.keyFile].map fun file =>
    (file, Conventions.volumeMountpoint ++ "/" ++ file)

theorem pinnedFirst_isPlain : pinnedFirst.IsPlain allMounted :=
  ⟨by decide, by decide, by decide⟩

/-- What the shell hands over for it. -/
theorem render_agrees_pinned :
    allMounted.path? Conventions.contractConfigFile = some "/test-volume/c-chain-config"
      ∧ pinnedFirst.IsPlain allMounted
      ∧ ∃ script moving starting,
        pinnedFirst.render (.v4 (.ofOctets 10 0 0 2)) allMounted = ["/bin/sh", "-c", script]
          ∧ parse script.toList = .ok (.thenIf true (.command [] moving) (.command [] starting))
          ∧ (expand 2 .start starting).2
            = ["/avalanchego/build/avalanchego", "--public-ip=10.0.0.2", "--network-id=local",
              "--http-port=9650", "--http-host=", "--staking-port=9651", "--log-level=info",
              "--snow-sample-size=1", "--snow-quorum-size=1", "--staking-enabled=true",
              "--tx-fee=1000000000", "--staking-tls-cert-file=/test-volume/staking-tls-cert",
              "--staking-tls-key-file=/test-volume/staking-tls-key", "--bootstrap-ids=",
              "--bootstrap-ips=", "--config-file=/test-volume/c-chain-config.json"] := by
  have hconfig : allMounted.path? Conventions.contractConfigFile
      = some "/test-volume/c-chain-config" := by decide
  obtain ⟨script, moving, starting, hrender, hparse, hwords, -⟩ :=
    render_agrees pinnedFirst (.v4 (.ofOctets 10 0 0 2)) hconfig pinnedFirst_isPlain
  refine ⟨hconfig, pinnedFirst_isPlain, script, moving, starting, hrender, hparse, ?_⟩
  have hpair : (pinnedFirst.pairArguments allMounted).map unquoted
      = ["--staking-tls-cert-file=/test-volume/staking-tls-cert",
        "--staking-tls-key-file=/test-volume/staking-tls-key"] := by decide +kernel
  rw [(hwords 2 .start (Nat.le_refl 2)).2, render_without,
    map_unquoted_arguments pinnedFirst_isPlain, hpair]
  rfl

/-- **Without a shell the quotes stay**: what the node is handed over is not
what the shell would hand over. -/
theorem render_keeps_quotes :
    "--staking-tls-cert-file=\"/test-volume/staking-tls-cert\"" ∈ pinnedFirst.render
        (.v4 (.ofOctets 10 0 0 2)) (allMounted.without Conventions.contractConfigFile)
      ∧ ∃ script moving starting,
        pinnedFirst.render (.v4 (.ofOctets 10 0 0 2)) allMounted = ["/bin/sh", "-c", script]
          ∧ parse script.toList = .ok (.thenIf true (.command [] moving) (.command [] starting))
          ∧ (expand 2 .start starting).2
            ≠ pinnedFirst.render (.v4 (.ofOctets 10 0 0 2))
                (allMounted.without Conventions.contractConfigFile)
              ++ ["--config-file=/test-volume/c-chain-config.json"] := by
  have hconfig : allMounted.path? Conventions.contractConfigFile
      = some "/test-volume/c-chain-config" := by decide
  have hpath : Plain "/test-volume/c-chain-config" := by decide
  have hpair : "--staking-tls-cert-file=\"/test-volume/staking-tls-cert\""
      ∈ pinnedFirst.pairArguments allMounted := by decide +kernel
  have hraw : "--staking-tls-cert-file=\"/test-volume/staking-tls-cert\""
      ∈ pinnedFirst.render (.v4 (.ofOctets 10 0 0 2))
        (allMounted.without Conventions.contractConfigFile) := by
    rw [render_without, arguments_eq]
    exact List.mem_append_left _ (List.mem_append_right _ hpair)
  refine ⟨hraw, script "/test-volume/c-chain-config" _, _, _,
    render_of_config pinnedFirst _ hconfig,
    parse_script rfl hpath (isWord_arguments _ pinnedFirst_isPlain), ?_⟩
  have hwords := isWord_startingWords hpath
    (isWord_arguments (.v4 (.ofOctets 10 0 0 2)) pinnedFirst_isPlain)
  rw [show expand 2 .start _ = _ from expand_wordOf hwords (Nat.le_refl 2) .start]
  intro hsame
  have hmem := List.mem_append_left ["--config-file=/test-volume/c-chain-config.json"] hraw
  rw [← hsame] at hmem
  exact not_mem_map_unquoted (by decide) _ hmem

end Launch

end LedgerNet
