/-!
# Spans of time in words

A span of whole milliseconds is shown in seconds from one second on, with as many decimals as it
needs, and in milliseconds below.
-/

set_option autoImplicit false

namespace StorageBroker.Text

/-- Three decimals of a second, without the zeros at their end. -/
def secondDecimals (milliseconds : Nat) : String :=
  if milliseconds = 0 then ""
  else if milliseconds % 100 = 0 then s!".{milliseconds / 100}"
  else if milliseconds % 10 = 0 then
    let tens := milliseconds / 10
    s!".{tens / 10}{tens % 10}"
  else s!".{milliseconds / 100}{milliseconds / 10 % 10}{milliseconds % 10}"

/-- A span of milliseconds. -/
def span (milliseconds : Nat) : String :=
  if milliseconds = 0 then "0ns"
  else if milliseconds < 1000 then s!"{milliseconds}ms"
  else s!"{milliseconds / 1000}{secondDecimals (milliseconds % 1000)}s"

end StorageBroker.Text
