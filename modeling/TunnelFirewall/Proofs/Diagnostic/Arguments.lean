import TunnelFirewall.Diagnostic.Arguments

/-!
# Domains on the command line

The arguments that are read to their end are a sequence of known options, and the domains they ask
to block are the list the reading ends with, each as it was given.
-/
namespace TunnelFirewall.Diagnostic

/-- Arguments that ask for these domains to be blocked, among other options, of which the last may
lack its value. -/
inductive Asks : List String → List String → Prop
  | nil : Asks [] []
  | lacking {name : String} (named : name = "-c" ∨ name = "--config" ∨ name = "--block") :
      Asks [name] []
  | path {name path : String} {rest domains : List String} (named : name = "-c" ∨ name = "--config")
      (asks : Asks rest domains) : Asks (name :: path :: rest) domains
  | generate {name : String} {rest domains : List String}
      (named : name = "-g" ∨ name = "--generate-config") (asks : Asks rest domains) :
      Asks (name :: rest) domains
  | check {rest domains : List String} (asks : Asks rest domains) : Asks ("--check" :: rest) domains
  | block {domain : String} {rest domains : List String} (asks : Asks rest domains) :
      Asks ("--block" :: domain :: rest) (domain :: domains)

variable {options after : Options} {name : String} {arguments domains rest : List String}

theorem readArguments_path (named : name = "-c" ∨ name = "--config") (path : String) :
    readArguments options (name :: path :: rest) =
      readArguments { options with configPath := path } rest := by
  rw [readArguments, if_pos named]

theorem readArguments_lacking (named : name = "-c" ∨ name = "--config" ∨ name = "--block") :
    readArguments options [name] = .run options := by
  rcases named with rfl | rfl | rfl <;> simp [readArguments]

theorem readArguments_generate (named : name = "-g" ∨ name = "--generate-config") :
    readArguments options (name :: rest) =
      readArguments { options with generate := true } rest := by
  rw [readArguments.eq_def]
  rcases named with rfl | rfl <;> simp

theorem readArguments_check :
    readArguments options ("--check" :: rest) =
      readArguments { options with checkOnly := true } rest := by
  rw [readArguments.eq_def]
  simp

theorem readArguments_block (domain : String) :
    readArguments options ("--block" :: domain :: rest) =
      readArguments { options with blocked := options.blocked ++ [domain] } rest := by
  simp [readArguments]

theorem Asks.readArguments_eq (h : Asks arguments domains) (options : Options) :
    ∃ after, readArguments options arguments = .run after ∧
      after.blocked = options.blocked ++ domains := by
  induction h generalizing options with
  | nil => exact ⟨options, rfl, (List.append_nil _).symm⟩
  | lacking named => exact ⟨options, readArguments_lacking named, (List.append_nil _).symm⟩
  | path named _ ih =>
    rw [readArguments_path named]
    exact ih _
  | generate named _ ih =>
    rw [readArguments_generate named]
    exact ih _
  | check _ ih =>
    rw [readArguments_check]
    exact ih _
  | @block domain rest domains _ ih =>
    obtain ⟨after, hread, hblocked⟩ := ih { options with blocked := options.blocked ++ [domain] }
    rw [readArguments_block]
    refine ⟨after, hread, ?_⟩
    rw [hblocked, List.append_assoc]
    rfl

/-- Only arguments of these forms are read to their end. -/
theorem asks_of_readArguments (h : readArguments options arguments = .run after) :
    ∃ domains, Asks arguments domains ∧ after.blocked = options.blocked ++ domains := by
  induction options, arguments using readArguments.induct with
  | case1 options =>
    obtain rfl := Request.run.inj h
    exact ⟨[], .nil, (List.append_nil _).symm⟩
  | case2 options name named path rest ih =>
    rw [readArguments_path named] at h
    obtain ⟨domains, hasks, hblocked⟩ := ih h
    exact ⟨domains, .path named hasks, hblocked⟩
  | case3 options name named =>
    have hlacking : name = "-c" ∨ name = "--config" ∨ name = "--block" := named.imp id .inl
    rw [readArguments_lacking hlacking] at h
    obtain rfl := Request.run.inj h
    exact ⟨[], .lacking hlacking, (List.append_nil _).symm⟩
  | case4 options name rest _ named ih =>
    rw [readArguments_generate named] at h
    obtain ⟨domains, hasks, hblocked⟩ := ih h
    exact ⟨domains, .generate named hasks, hblocked⟩
  | case5 options rest _ _ ih =>
    rw [readArguments_check] at h
    obtain ⟨domains, hasks, hblocked⟩ := ih h
    exact ⟨domains, .check hasks, hblocked⟩
  | case6 options domain rest _ _ _ ih =>
    rw [readArguments_block] at h
    obtain ⟨domains, hasks, hblocked⟩ := ih h
    refine ⟨domain :: domains, .block hasks, ?_⟩
    rw [hblocked, List.append_assoc]
    rfl
  | case7 options =>
    rw [readArguments_lacking (.inr (.inr rfl))] at h
    obtain rfl := Request.run.inj h
    exact ⟨[], .lacking (.inr (.inr rfl)), (List.append_nil _).symm⟩
  -- the reading of any other argument ends in no options
  | _ => simp_all [readArguments.eq_def]

theorem ofArguments_blocked_iff :
    (∃ options, Request.ofArguments arguments = .run options ∧ options.blocked = domains) ↔
      Asks arguments domains := by
  constructor
  · rintro ⟨options, hread, rfl⟩
    obtain ⟨domains, hasks, hblocked⟩ := asks_of_readArguments hread
    rw [hblocked]
    exact hasks
  · intro hasks
    exact hasks.readArguments_eq {}

end TunnelFirewall.Diagnostic
