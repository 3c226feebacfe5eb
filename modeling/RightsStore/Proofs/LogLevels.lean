import RightsStore.Proofs.Bootstraps

namespace RightsStore

open Text

namespace LogName

def standard : List (String × Int) := [
  ("DEBUG", 10), ("INFO", 20), ("WARN", 30), ("WARNING", 30), ("ERROR", 40), ("CRITICAL", 50),
  ("FATAL", 50), ("NOTSET", 0)]

def taken : List String := ["BASIC_FORMAT", "_STYLES"]

def capital (name : String) : String := .ofList (upper name.toList)

theorem mem_known_iff (word : String) :
    word ∈ known.map Prod.fst ↔ word ∈ standard.map Prod.fst ∨ word ∈ taken := by
  have hperm : (known.map Prod.fst).Perm (standard.map Prod.fst ++ taken) := by decide
  rw [hperm.mem_iff, List.mem_append]

theorem lookup_known_of_standard {word : String} (h : word ∈ standard.map Prod.fst) :
    known.lookup word = (standard.lookup word).map .level := by
  revert word
  decide

theorem toLevel_ofText {name : String} (h : capital name ∉ taken) :
    (ofText name).toLevel = .ok ((standard.lookup (capital name)).getD 20) := by
  rw [ofText, ← capital]
  by_cases hstandard : capital name ∈ standard.map Prod.fst
  · rw [lookup_known_of_standard hstandard]
    cases standard.lookup (capital name) <;> rfl
  · have hknown : capital name ∉ known.map Prod.fst := by
      rw [mem_known_iff, not_or]
      exact ⟨hstandard, h⟩
    rw [lookup_eq_none_iff_not_mem.2 hstandard, lookup_eq_none_iff_not_mem.2 hknown]
    rfl

theorem toLevel_ofText_of_taken {name : String} (h : capital name ∈ taken) :
    ∃ f, (ofText name).toLevel = .error f := by
  rw [ofText, ← capital]
  rw [taken, List.mem_cons, List.mem_singleton] at h
  rcases h with h | h
  · rw [h]
    exact ⟨_, rfl⟩
  · rw [h]
    exact ⟨_, rfl⟩

end LogName

def Settings.levelName (s : Settings) (given : Option String) : String :=
  let name := given.getD ""
  if name = "" then s.logLevel else name

theorem Settings.logLevel_of_load {env : Environment} {s : Settings} (h : load env = .ok s) :
    s.logLevel = env.logLevel.getD
      (Deployment.ofEnvironment (env.environment.getD "development")).defaultLogLevel := by
  obtain ⟨echo, -, hs⟩ := exists_of_bind_eq_ok h
  cases hs
  rfl

theorem logLevel_of_setting {s : Settings} {given : Datum} {name : Option String}
    (h : given.setting "upper" = .ok name) :
    logLevel s given = (LogName.ofText (name.getD s.logLevel)).toLevel := by
  rw [logLevel, h, Except.mapError, ok_bind]

theorem logLevel_eq (s : Settings) (given : Option String) :
    logLevel s ((given.map Datum.text).getD .null) = (LogName.ofText (s.levelName given)).toLevel := by
  cases given with
  | none =>
    have hgiven : Datum.null.setting "upper" = .ok none := rfl
    rw [Option.map_none, Option.getD_none, logLevel_of_setting hgiven]
    rfl
  | some name =>
    rw [Option.map_some, Option.getD_some, Settings.levelName, Option.getD_some]
    by_cases h : name = ""
    · have hgiven : (Datum.text name).setting "upper" = .ok none := by
        rw [h]
        rfl
      rw [logLevel_of_setting hgiven, if_pos h]
      rfl
    · have hgiven : (Datum.text name).setting "upper" = .ok (some name) := by
        have hempty : (Datum.text name).isEmpty = false := by
          simp [Datum.isEmpty, Datum.document, Document.isEmpty, Leaf.isEmpty, h]
        rw [Datum.setting, hempty]
        rfl
      rw [logLevel_of_setting hgiven, if_neg h]
      rfl

namespace Bootstrap

variable {settings : Settings} {args : List (List Char)} {o : Options}

theorem outcome_onUrl_ne (url : List Char) (disk : Disk) (f : LogFault) :
    (onUrl url disk).outcome ≠ .fault (.level f) := by
  unfold onUrl
  dsimp only
  split
  · nofun
  · unfold onEngine
    split
    · nofun
    · nofun
    · unfold onDatabase
      dsimp only
      split
      · nofun
      · nofun

theorem run_of_level (hread : Options.read args = .ok o) {n : Int}
    (hlevel : logLevel settings ((o.logLevel.map Datum.text).getD .null) = .ok n) (disk : Disk) :
    let r := onUrl (settings.urlOr o.databaseUrl).toList disk
    (run settings args disk).outcome = r.outcome ∧
      (run settings args disk).log = shownAt n r.log := by
  unfold run
  rw [hread]
  dsimp only
  rw [hlevel]
  exact ⟨rfl, rfl⟩

theorem outcome_of_fault (hread : Options.read args = .ok o) {f : LogFault}
    (hlevel : logLevel settings ((o.logLevel.map Datum.text).getD .null) = .error f) (disk : Disk) :
    (run settings args disk).outcome = .fault (.level f) := by
  unfold run
  rw [hread]
  dsimp only
  rw [hlevel]

end Bootstrap

namespace LogName

/-- Whatever is asked for by an argument or by the environment: a standard name in any case is that
level and every other text is `INFO`, what is less severe is not shown, and no run is given up for
its level. Only the two names that are taken are no levels, and a run that asks for one of them is
given up. -/
theorem level_settled {env : Environment} {s : Settings} (hs : Settings.load env = .ok s)
    (given : Option String) :
    let default := (Deployment.ofEnvironment (env.environment.getD "development")).defaultLogLevel
    let asked := given.getD ""
    let word := capital (if asked = "" then env.logLevel.getD default else asked)
    let level := logLevel s ((given.map Datum.text).getD .null)
    (word ∉ taken →
      let n := (standard.lookup word).getD 20
      level = .ok n ∧
        shownAt n (Severity.all.map .probe) =
          (Severity.all.filter fun v => n ≤ v.number).map .probe ∧
        ∀ args o disk, Options.read args = .ok o → o.logLevel = given →
          (∀ f, (Bootstrap.run s args disk).outcome ≠ .fault (.level f)) ∧
            (Bootstrap.run s args disk).log =
              shownAt n (Bootstrap.onUrl (s.urlOr o.databaseUrl).toList disk).log) ∧
      (word ∈ taken →
        ∃ f, level = .error f ∧
          ∀ args o disk, Options.read args = .ok o → o.logLevel = given →
            (Bootstrap.run s args disk).outcome = .fault (.level f)) := by
  intro default asked word level
  have hword : word = capital (s.levelName given) := by rw [Settings.levelName, s.logLevel_of_load hs]
  have hlevel : level = (ofText (s.levelName given)).toLevel := logLevel_eq s given
  rw [hword]
  refine ⟨fun hfree => ?_, fun htaken => ?_⟩
  · intro n
    have hn : level = .ok n := hlevel.trans (toLevel_ofText hfree)
    refine ⟨hn, List.filter_map, ?_⟩
    rintro args o disk hread rfl
    obtain ⟨houtcome, hlog⟩ := Bootstrap.run_of_level hread hn disk
    refine ⟨fun f => ?_, hlog⟩
    rw [houtcome]
    exact Bootstrap.outcome_onUrl_ne _ disk f
  · obtain ⟨f, hf⟩ := toLevel_ofText_of_taken htaken
    refine ⟨f, hlevel.trans hf, ?_⟩
    rintro args o disk hread rfl
    exact Bootstrap.outcome_of_fault hread (hlevel.trans hf) disk

theorem level_settled_of_dotless :
    let env : Environment := { environment := some "production", logLevel := some "_styles" }
    let s : Settings := ⟨.production, Settings.defaultUrl, false, "production", "_styles"⟩
    let args := ["--log=ınfo".toList]
    Settings.load env = .ok s ∧ capital "ınfo" ∉ taken ∧
      logLevel s (.text "ınfo") = .ok 20 ∧
      shownAt 20 (Severity.all.map .probe) =
        [.probe .info, .probe .warning, .probe .error, .probe .critical] ∧
      ∀ disk f, (Bootstrap.run s args disk).outcome ≠ .fault (.level f) := by
  intro env s args
  have hs : Settings.load env = .ok s := rfl
  have hword : capital "ınfo" = "INFO" := by decide +kernel
  have hfree : capital "ınfo" ∉ taken := by
    rw [hword]
    decide
  have hread : Options.read args = .ok { logLevel := some "ınfo" } :=
    ok_of_toOption (by decide +kernel)
  obtain ⟨hlevel, hshown, hrun⟩ := (level_settled hs (some "ınfo")).1 hfree
  rw [Option.getD_some, if_neg (by decide), hword] at hlevel hshown
  exact ⟨hs, hfree, hlevel, hshown, fun disk => (hrun args _ disk hread rfl).1⟩

/-- The format of messages is found under its name and is no level. -/
theorem level_of_format :
    let s : Settings := ⟨.development, Settings.defaultUrl, false, "development", "DEBUG"⟩
    let f : LogFault := .unknownLevel "%(levelname)s:%(name)s:%(message)s"
    capital "basic_format" ∉ standard.map Prod.fst ∧ logLevel s (.text "basic_format") = .error f ∧
      (Bootstrap.run s ["--log-level".toList, "basic_format".toList] .empty).outcome =
        .fault (.level f) := by
  intro s f
  have hword : capital "basic_format" = "BASIC_FORMAT" := by decide +kernel
  have hlevel : logLevel s (.text "basic_format") = .error f := by
    refine (logLevel_eq s (some "basic_format")).trans ?_
    rw [Settings.levelName, Option.getD_some, if_neg (by decide), ofText, ← capital, hword]
    rfl
  have hread : Options.read ["--log-level".toList, "basic_format".toList] =
      .ok { logLevel := some "basic_format" } := ok_of_toOption (by decide +kernel)
  refine ⟨?_, hlevel, Bootstrap.outcome_of_fault hread hlevel .empty⟩
  rw [hword]
  decide

end LogName

end RightsStore
