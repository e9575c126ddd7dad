import LintClient.Json.Access
import LintClient.Launch.Child

/-!
# Time limits

The time limit of a run, as a value of the configuration says it. No value and zero set no limit. A
negative limit is over before the run begins, and so is one that is no number.
-/

namespace LintClient.Run

open Launch (Moment)

/-- A time limit. -/
inductive Limit where
  | unlimited
  /-- The run is over before it begins. -/
  | expired
  | after (moment : Moment)
deriving DecidableEq, Repr

/-- The limit of a number of seconds other than zero. -/
def limitOfSeconds (seconds : Binary64) : Limit :=
  if seconds = .nan || seconds.less 0 then .expired
  else match Launch.momentAfter? seconds with
    | some moment => .after moment
    | none => .unlimited

/-- The limit that a value sets. -/
def limitOf (value : Json) : Except Json.Misuse Limit :=
  if !value.isPresent then .ok .unlimited
  else if value.integer?.any (· < 0) then .ok .expired
  else limitOfSeconds <$> value.toBinary64

/-- A value that does not count sets no limit, as no value does. -/
theorem limitOf_counting (limit : Json) :
    limitOf (if limit.isPresent then limit else .null) = limitOf limit := by
  split
  · rfl
  · rename_i absent
    have unlimited : limitOf .null = .ok .unlimited := rfl
    rw [unlimited, limitOf, if_pos (by simpa using absent)]

end LintClient.Run
