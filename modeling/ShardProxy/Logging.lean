import ShardProxy.Config

/-!
# Logging

What is logged goes through a filter: the one that the environment names, if it is one, else the one of
the configuration. Which texts are filters is for the library that logs to say, and a parameter here.
Logging begins once.

    usedFilter accepts (some "warn") c = .ok "warn"                   if accepts "warn"
    usedFilter accepts none c = .error (.invalid c.logLevel)          if not accepts c.logLevel
-/

namespace ShardProxy.Logging

/-- Why logging cannot begin. -/
inductive Refusal
  | invalid (filter : String)
  /-- Logging goes somewhere already. -/
  | installed
deriving DecidableEq

def Refusal.message : Refusal → String
  | invalid filter => "Invalid tracing filter '" ++ filter ++ "'"
  | installed => "Failed to install tracing subscriber"

variable (accepts : String → Bool) (environment : Option String) (c : ProxyConfig)

/-- The filter that is used. -/
def usedFilter : Except Refusal String :=
  match environment.filter accepts with
  | some filter => .ok filter
  | none => if accepts c.logLevel then .ok c.logLevel else .error (.invalid c.logLevel)

/-- Begins logging, where nobody has begun before. -/
def install (installed : Bool) : Except Refusal String :=
  match usedFilter accepts environment c with
  | .error e => .error e
  | .ok filter => if installed then .error .installed else .ok filter

/-- Logging begins only with a filter, and only if it has not begun: a text that is no filter is refused
first. -/
theorem install_eq_ok_iff {installed : Bool} {filter : String} :
    install accepts environment c installed = .ok filter ↔
      installed = false ∧ usedFilter accepts environment c = .ok filter := by
  unfold install
  cases usedFilter accepts environment c <;> cases installed <;> simp

/-- A filter that is used is one, and comes from the environment or the configuration. -/
theorem accepts_of_usedFilter {filter : String} (h : usedFilter accepts environment c = .ok filter) :
    accepts filter = true ∧ (environment = some filter ∨ filter = c.logLevel) := by
  unfold usedFilter at h
  split at h
  · next henvironment =>
    obtain ⟨hsome, haccepts⟩ := Option.filter_eq_some_iff.mp henvironment
    cases h
    exact ⟨haccepts, .inl hsome⟩
  · split at h
    · next haccepts =>
      cases h
      exact ⟨haccepts, .inr rfl⟩
    · cases h

end ShardProxy.Logging
