/-!
# Log channels

Messages about a run go to named channels. All of them lie below one root channel, so that they can
be turned on and off together.

## Main definitions

* `channelName` : the full name of a channel.
-/

namespace PageMarkup

def rootChannel : String := "page_codegen"

/-- The full name of a channel: a name that does not begin like the root channel is put below it. -/
def channelName (name : String) : String :=
  if rootChannel.toList.isPrefixOf name.toList then name else rootChannel ++ "." ++ name

end PageMarkup
