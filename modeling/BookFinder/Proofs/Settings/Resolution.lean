import BookFinder.Proofs.Settings.Loading

/-! # How settings are resolved

The environment is on top of a document, and the document on top of the defaults. Each setting is
decided on its own: by its variable if that overrides it, else by the document, else by its
default. -/

namespace BookFinder.Settings

variable {environment : Environment} {layer : Layer}

/-! ## Ports -/

end BookFinder.Settings
