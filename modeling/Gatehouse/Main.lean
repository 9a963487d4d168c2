import Gatehouse.Api.Service
import Gatehouse.Startup

/-! The start of the service as a program. It reads its settings from the environment, reports its
start on standard output and ends with a complaint on standard error where it cannot go on.
Waiting for requests is left to whoever gives it a connection. -/

open Gatehouse

def localAddresses : List Net.Address := ["127.0.0.1", "::1"].filterMap Net.Address.parse?

def readEnvironment : IO Environment := do
  let values ← Variable.all.mapM fun v => do
    return (← IO.getEnv v.key).map fun value => (v.key, Text.Utf8.encode value)
  return values.filterMap id

def main : IO UInt32 := do
  let outcome := Startup.outcome localAddresses (← readEnvironment).lookup (← IO.getEnv "RUST_LOG")
  for line in outcome.lines do
    IO.println line
  if let some complaint := outcome.ending.complaint? then
    IO.eprintln complaint
  return (outcome.ending.exitCode?.getD 0).toUInt32
