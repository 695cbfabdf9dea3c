/-!
# The buffer of C++ code

Generated headers write to and read from a buffer class that comes with them.
-/

namespace PacketSmith.Support

/-- The lines of the header of the buffer. -/
def cppBufferLines : List String := [
  "#ifndef GALALITH_BYTEBUFFER_H",
  "#define GALALITH_BYTEBUFFER_H",
  "",
  "#include <cstdint>",
  "#include <cstring>",
  "#include <list>",
  "#include <map>",
  "#include <memory>",
  "#include <set>",
  "#include <stdexcept>",
  "#include <string>",
  "#include <vector>",
  "",
  "namespace galalith \x7b",
  "    using namespace std;",
  "",
  "    class ByteBuffer;",
  "",
  "    class IPacket \x7b",
  "    public:",
  "        virtual ~IPacket() = default;",
  "",
  "        virtual int16_t protocolId() = 0;",
  "    \x7d;",
  "",
  "    class IProtocolRegistration \x7b",
  "    public:",
  "        virtual ~IProtocolRegistration() = default;",
  "",
  "        virtual int16_t protocolId() = 0;",
  "",
  "        virtual void write(ByteBuffer &buffer, IPacket *packet) = 0;",
  "",
  "        virtual IPacket *read(ByteBuffer &buffer) = 0;",
  "    \x7d;",
  "",
  "    const int32_t MAX_PROTOCOL_NUM = 32768;",
  "",
  "    // Filled by initProtocol() in ProtocolManager.h",
  "    inline IProtocolRegistration *protocols[MAX_PROTOCOL_NUM] = \x7b\x7d;",
  "",
  "    inline IProtocolRegistration *getProtocol(int16_t protocolId) \x7b",
  "        if (protocolId < 0 || protocols[protocolId] == nullptr) \x7b",
  "            throw runtime_error(\"unknown protocol id \" + to_string(protocolId));",
  "        \x7d",
  "        return protocols[protocolId];",
  "    \x7d",
  "",
  "    class ByteBuffer \x7b",
  "    private:",
  "        vector<int8_t> buffer;",
  "        int32_t writerIndex = 0;",
  "        int32_t readerIndex = 0;",
  "",
  "        void ensureCapacity(int32_t length) \x7b",
  "            auto required = static_cast<size_t>(writerIndex) + length;",
  "            if (required > buffer.size()) \x7b",
  "                buffer.resize(required * 2);",
  "            \x7d",
  "        \x7d",
  "",
  "        void checkReadable(int32_t length) const \x7b",
  "            if (readerIndex + length > writerIndex) \x7b",
  "                throw out_of_range(\"ByteBuffer read past the end of the written data\");",
  "            \x7d",
  "        \x7d",
  "",
  "        void writeRaw(const void *data, int32_t length) \x7b",
  "            ensureCapacity(length);",
  "            memcpy(buffer.data() + writerIndex, data, length);",
  "            writerIndex += length;",
  "        \x7d",
  "",
  "        void readRaw(void *data, int32_t length) \x7b",
  "            checkReadable(length);",
  "            memcpy(data, buffer.data() + readerIndex, length);",
  "            readerIndex += length;",
  "        \x7d",
  "",
  "        void writeVarUInt(uint64_t value) \x7b",
  "            while (value >= 0x80) \x7b",
  "                writeByte(static_cast<int8_t>((value & 0x7F) | 0x80));",
  "                value >>= 7;",
  "            \x7d",
  "            writeByte(static_cast<int8_t>(value));",
  "        \x7d",
  "",
  "        uint64_t readVarUInt() \x7b",
  "            uint64_t value = 0;",
  "            for (int shift = 0; shift < 64; shift += 7) \x7b",
  "                auto b = static_cast<uint8_t>(readByte());",
  "                value |= static_cast<uint64_t>(b & 0x7F) << shift;",
  "                if ((b & 0x80) == 0) \x7b",
  "                    return value;",
  "                \x7d",
  "            \x7d",
  "            throw runtime_error(\"malformed varint\");",
  "        \x7d",
  "",
  "    public:",
  "        ByteBuffer() : buffer(128) \x7b\x7d",
  "",
  "        explicit ByteBuffer(const vector<int8_t> &bytes)",
  "                : buffer(bytes), writerIndex(static_cast<int32_t>(bytes.size())) \x7b\x7d",
  "",
  "        const int8_t *data() const \x7b return buffer.data(); \x7d",
  "",
  "        int32_t getWriteOffset() const \x7b return writerIndex; \x7d",
  "",
  "        int32_t getReadOffset() const \x7b return readerIndex; \x7d",
  "",
  "        bool isReadable() const \x7b return writerIndex > readerIndex; \x7d",
  "",
  "        void writeBool(bool value) \x7b writeByte(value ? 1 : 0); \x7d",
  "",
  "        bool readBool() \x7b return readByte() == 1; \x7d",
  "",
  "        void writeByte(int8_t value) \x7b",
  "            ensureCapacity(1);",
  "            buffer[writerIndex++] = value;",
  "        \x7d",
  "",
  "        int8_t readByte() \x7b",
  "            checkReadable(1);",
  "            return buffer[readerIndex++];",
  "        \x7d",
  "",
  "        // Big-endian fixed width",
  "        void writeShort(int16_t value) \x7b",
  "            writeByte(static_cast<int8_t>(value >> 8));",
  "            writeByte(static_cast<int8_t>(value));",
  "        \x7d",
  "",
  "        int16_t readShort() \x7b",
  "            auto high = static_cast<uint8_t>(readByte());",
  "            auto low = static_cast<uint8_t>(readByte());",
  "            return static_cast<int16_t>((high << 8) | low);",
  "        \x7d",
  "",
  "        // Zigzag varint",
  "        void writeInt(int32_t value) \x7b",
  "            writeVarUInt(static_cast<uint32_t>((value << 1) ^ (value >> 31)));",
  "        \x7d",
  "",
  "        int32_t readInt() \x7b",
  "            auto value = static_cast<uint32_t>(readVarUInt());",
  "            return static_cast<int32_t>(value >> 1) ^ -static_cast<int32_t>(value & 1);",
  "        \x7d",
  "",
  "        void writeLong(int64_t value) \x7b",
  "            writeVarUInt(static_cast<uint64_t>((value << 1) ^ (value >> 63)));",
  "        \x7d",
  "",
  "        int64_t readLong() \x7b",
  "            auto value = readVarUInt();",
  "            return static_cast<int64_t>(value >> 1) ^ -static_cast<int64_t>(value & 1);",
  "        \x7d",
  "",
  "        void writeFloat(float value) \x7b",
  "            uint32_t bits;",
  "            memcpy(&bits, &value, sizeof(bits));",
  "            writeInt(static_cast<int32_t>(bits));",
  "        \x7d",
  "",
  "        float readFloat() \x7b",
  "            auto bits = static_cast<uint32_t>(readInt());",
  "            float value;",
  "            memcpy(&value, &bits, sizeof(value));",
  "            return value;",
  "        \x7d",
  "",
  "        void writeDouble(double value) \x7b",
  "            uint64_t bits;",
  "            memcpy(&bits, &value, sizeof(bits));",
  "            writeLong(static_cast<int64_t>(bits));",
  "        \x7d",
  "",
  "        double readDouble() \x7b",
  "            auto bits = static_cast<uint64_t>(readLong());",
  "            double value;",
  "            memcpy(&value, &bits, sizeof(value));",
  "            return value;",
  "        \x7d",
  "",
  "        void writeChar(char value) \x7b writeString(string(1, value)); \x7d",
  "",
  "        char readChar() \x7b",
  "            auto value = readString();",
  "            return value.empty() ? '\\0' : value[0];",
  "        \x7d",
  "",
  "        void writeString(const string &value) \x7b",
  "            writeInt(static_cast<int32_t>(value.size()));",
  "            writeRaw(value.data(), static_cast<int32_t>(value.size()));",
  "        \x7d",
  "",
  "        string readString() \x7b",
  "            auto length = readInt();",
  "            if (length <= 0) \x7b",
  "                return \"\";",
  "            \x7d",
  "            string value(length, '\\0');",
  "            readRaw(value.data(), length);",
  "            return value;",
  "        \x7d",
  "",
  "        // Returns true when packet is null and nothing else has to be written",
  "        bool writePacketFlag(const IPacket *packet) \x7b",
  "            auto isNull = packet == nullptr;",
  "            writeBool(!isNull);",
  "            return isNull;",
  "        \x7d",
  "",
  "        void writePacket(const IPacket *packet, int16_t protocolId) \x7b",
  "            getProtocol(protocolId)->write(*this, const_cast<IPacket *>(packet));",
  "        \x7d",
  "",
  "        unique_ptr<IPacket> readPacket(int16_t protocolId) \x7b",
  "            return unique_ptr<IPacket>(getProtocol(protocolId)->read(*this));",
  "        \x7d",
  "    \x7d;",
  "\x7d",
  "",
  "#endif"]

/-- The text of the header of the buffer. -/
def cppBuffer : String := String.join (cppBufferLines.map (· ++ "\n"))

end PacketSmith.Support
