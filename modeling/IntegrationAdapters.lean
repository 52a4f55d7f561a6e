import IntegrationAdapters.Source.Base64
import IntegrationAdapters.Source.TextEncodings
import IntegrationAdapters.Source.Crypto
import IntegrationAdapters.Source.Pipe
import IntegrationAdapters.Source.Config
import IntegrationAdapters.Source.Messaging
import IntegrationAdapters.Source.StorageOptions
import IntegrationAdapters.Source.MongoStore
import IntegrationAdapters.Source.Storage
import IntegrationAdapters.Source.Msgpack
import IntegrationAdapters.Source.CacheStores
import IntegrationAdapters.Source.Cache
import IntegrationAdapters.Guarantees.Crypto
import IntegrationAdapters.Guarantees.Pipe
import IntegrationAdapters.Guarantees.Config
import IntegrationAdapters.Guarantees.Storage
import IntegrationAdapters.Guarantees.Cache
