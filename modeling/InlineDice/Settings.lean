import InlineDice.Report

namespace InlineDice

/-- What a host can be set to. -/
structure Settings where
  environment : Text
  debug : Bool
  logLevel : Text
  nameWidthFloor : Int
  aggregateLabel : Text
  rngSeed : Option Int
  serverHost : Text
  serverPort : Int
  deriving DecidableEq

namespace Settings

def default : Settings where
  environment := "local".toList
  debug := true
  logLevel := "INFO".toList
  nameWidthFloor := 0
  aggregateLabel := Report.defaultLabel
  rngSeed := none
  serverHost := "127.0.0.1".toList
  serverPort := 8000

/-- New values for some settings. -/
structure Change where
  environment : Option Text
  debug : Option Bool
  logLevel : Option Text
  nameWidthFloor : Option Int
  aggregateLabel : Option Text
  rngSeed : Option (Option Int)
  serverHost : Option Text
  serverPort : Option Int

/-- Settings without a new value keep theirs. -/
def change (s : Settings) (c : Change) : Settings where
  environment := c.environment.getD s.environment
  debug := c.debug.getD s.debug
  logLevel := c.logLevel.getD s.logLevel
  nameWidthFloor := c.nameWidthFloor.getD s.nameWidthFloor
  aggregateLabel := c.aggregateLabel.getD s.aggregateLabel
  rngSeed := c.rngSeed.getD s.rngSeed
  serverHost := c.serverHost.getD s.serverHost
  serverPort := c.serverPort.getD s.serverPort

end Settings

end InlineDice
