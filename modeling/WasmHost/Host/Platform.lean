import WasmHost.Guest.Runtime
import WasmHost.Memory.Layout.Named
import WasmHost.Text.Encoding
/-!
What a host is built on and does not define itself.

A host asks a runtime to run its guests, a registry for the codecs of texts, and a reader for the
names of layouts. Nothing more is known of them than they promise.
-/
namespace WasmHost

/-- All that a host is built on. -/
class Platform extends Guest.Runtime, Text.Codecs, Layout.Names

namespace Platform

/-- The machine, the codecs that every registry has, and the reader of layout names. -/
@[reducible]
def machine : Platform where
  toRuntime := Guest.machine
  toCodecs := Text.Codecs.least
  toNames := Layout.Names.parsed

end Platform
end WasmHost
