import Gateway.Configuration.Loading
import Gateway.Router.Registry

namespace Gateway

/-! Setting up a gateway from its configuration. Clusters whose configuration is
refused are left out; only an unusable protection key prevents the start. -/

def Router.ofConfig (source : RandomSource) (fresh : Bytes) (config : GatewayConfig) :
    Effect (Except ConfigurationFault Router) := do
  match ← configuredProtector fresh config.protectionKey with
  | .error fault => pure (.error fault)
  | .ok protector => do
      let router : Router :=
        { policies := .builtin source protector, background := false }
      let (router, _) ← router.applySnapshot config.clusters
      pure (.ok router)

end Gateway
