import BookFinder.Settings.Basic

/-! # Layers of settings

A layer is what one source says about the settings; it may leave any of them open. A layer on top of
another one decides what it says something about.
-/

namespace BookFinder.Settings

structure Layer where
  debug : Option Bool := none
  tcpPort : Option UInt16 := none
  bindAddress : Option String := none
  baseUrl : Option String := none
  requestTimeout : Option Binary64 := none
  poolSize : Option UInt64 := none
  verifySsl : Option Bool := none
  /-- A layer may also say that there is no proxy. -/
  proxy : Option (Option String) := none
  userAgent : Option String := none
  maxPages : Option UInt32 := none
deriving DecidableEq, Repr

/-- The settings with a layer on top of them. -/
def Layer.over (layer : Layer) (settings : Settings) : Settings where
  general := { debug := layer.debug.getD settings.general.debug }
  server :=
    { tcpPort := layer.tcpPort.getD settings.server.tcpPort
      bindAddress := layer.bindAddress.getD settings.server.bindAddress }
  catalog :=
    { baseUrl := layer.baseUrl.getD settings.catalog.baseUrl
      requestTimeout := layer.requestTimeout.getD settings.catalog.requestTimeout
      poolSize := layer.poolSize.getD settings.catalog.poolSize
      verifySsl := layer.verifySsl.getD settings.catalog.verifySsl
      proxy := layer.proxy.getD settings.catalog.proxy
      userAgent := layer.userAgent.getD settings.catalog.userAgent
      maxPages := layer.maxPages.getD settings.catalog.maxPages }

end BookFinder.Settings
