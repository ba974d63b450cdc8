import AutocxxParse.Model.Types
import AutocxxParse.Model.Collections
import AutocxxParse.Model.ApiVec
import AutocxxParse.Model.Engine
import AutocxxParse.Model.ParseBindgen
import AutocxxParse.Walk.Scope
import AutocxxParse.Walk.Context
import AutocxxParse.Walk.Entries
import AutocxxParse.Walk.Failures
import AutocxxParse.Walk.Blocklist
import AutocxxParse.Walk.Origin
import AutocxxParse.Walk.Listing
import AutocxxParse.Walk.Guards
import AutocxxParse.Walk.Config
import AutocxxParse.Pass.Replace
import AutocxxParse.Pass.ParseItems
import AutocxxParse.Pass.Aborts
import AutocxxParse.Pass.Names
